import Mathlib.Data.List.Lex

/-!
# The order of texts and of their bytes

Texts compare character by character, and so do their UTF-8 forms byte by byte.  The two orders
agree: a greater character has more bytes and then a greater first one, or as many bytes that write a
greater number in base 64.  No character's bytes begin those of another.
-/

namespace MarkedSheet.Text

/-- The bytes of a text in UTF-8. -/
def bytes (s : String) : List UInt8 :=
  s.toByteArray.data.toList

/-- The order of byte strings: the first difference decides, and a beginning comes before the
whole. -/
def BytesBefore (xs ys : List UInt8) : Prop :=
  List.Lex (· < ·) xs ys

/-- The first byte string comes before the second, whatever follows either of them. -/
def Decides (xs ys : List UInt8) : Prop :=
  ∀ more others, BytesBefore (xs ++ more) (ys ++ others)

/-- What is left of a number in base 64 without its last places. -/
def leading : Nat → Nat → Nat
  | 0, n => n
  | places + 1, n => leading places (n / 64)

/-- A number whose last places in base 64 have a byte each.  The first byte is marked by what is
added to it, those that follow by 128. -/
def marked (mark : Nat) : Nat → Nat → List UInt8
  | 0, n => [UInt8.ofNat (mark + n)]
  | places + 1, n => marked mark places (n / 64) ++ [UInt8.ofNat (128 + n % 64)]

/-- How many bytes follow the first one of a character. -/
def following (n : Nat) : Nat :=
  if n ≤ 127 then 0 else if n ≤ 2047 then 1 else if n ≤ 65535 then 2 else 3

/-- The mark of a first byte that so many others follow. -/
def markFor : Nat → Nat
  | 0 => 0
  | 1 => 192
  | 2 => 224
  | _ => 240

def firstByte (n : Nat) : Nat :=
  markFor (following n) + leading (following n) n

theorem decides_of_lt {m n : Nat} (h : m < n) (hn : n < 256) (xs ys : List UInt8) :
    Decides (UInt8.ofNat m :: xs) (UInt8.ofNat n :: ys) := by
  intro more others
  apply List.Lex.rel
  rw [UInt8.lt_iff_toNat_lt, UInt8.toNat_ofNat', UInt8.toNat_ofNat']
  omega

theorem Decides.append {xs ys : List UInt8} (h : Decides xs ys) (us vs : List UInt8) :
    Decides (xs ++ us) (ys ++ vs) := by
  intro more others
  rw [List.append_assoc, List.append_assoc]
  exact h (us ++ more) (vs ++ others)

theorem Decides.after {xs ys : List UInt8} (h : Decides xs ys) (front : List UInt8) :
    Decides (front ++ xs) (front ++ ys) := by
  intro more others
  rw [List.append_assoc, List.append_assoc]
  exact List.Lex.append_left _ (h more others) front

theorem exists_marked_eq_cons (mark places n : Nat) :
    ∃ rest, marked mark places n = UInt8.ofNat (mark + leading places n) :: rest := by
  induction places generalizing n with
  | zero => exact ⟨[], rfl⟩
  | succ places ih =>
      obtain ⟨rest, hrest⟩ := ih (n / 64)
      exact ⟨rest ++ [UInt8.ofNat (128 + n % 64)], by rw [marked, hrest]; rfl⟩

/-- Of two numbers with as many bytes the smaller one comes first. -/
theorem decides_marked {mark places m n : Nat} (h : m < n) (hn : mark + leading places n < 256) :
    Decides (marked mark places m) (marked mark places n) := by
  -- Either the bytes before the last one decide, or they are equal and the last one does.
  induction places generalizing m n with
  | zero => exact decides_of_lt (Nat.add_lt_add_left h mark) hn [] []
  | succ places ih =>
      rw [marked, marked]
      have hdigits : m / 64 < n / 64 ∨ m / 64 = n / 64 ∧ m % 64 < n % 64 := by omega
      rcases hdigits with hfront | ⟨hfront, hlast⟩
      · exact (ih hfront hn).append _ _
      · rw [hfront]
        apply Decides.after
        exact decides_of_lt (by omega) (by omega) [] []

theorem toNat_lt (c : Char) : c.toNat < 1114112 := by
  rcases c.valid with h | ⟨-, h⟩
  · exact Nat.lt_trans h (by decide)
  · exact h

theorem utf8EncodeChar_eq_marked (c : Char) :
    String.utf8EncodeChar c =
      marked (markFor (following c.toNat)) (following c.toNat) c.toNat := by
  have hbound := toNat_lt c
  have hbytes : String.utf8EncodeChar c =
      if c.toNat ≤ 127 then [UInt8.ofNat c.toNat]
      else if c.toNat ≤ 2047 then
        [UInt8.ofNat (c.toNat / 64 % 32 + 192), UInt8.ofNat (c.toNat % 64 + 128)]
      else if c.toNat ≤ 65535 then
        [UInt8.ofNat (c.toNat / 4096 % 16 + 224), UInt8.ofNat (c.toNat / 64 % 64 + 128),
          UInt8.ofNat (c.toNat % 64 + 128)]
      else
        [UInt8.ofNat (c.toNat / 262144 % 8 + 240), UInt8.ofNat (c.toNat / 4096 % 64 + 128),
          UInt8.ofNat (c.toNat / 64 % 64 + 128), UInt8.ofNat (c.toNat % 64 + 128)] := rfl
  rw [hbytes]
  generalize c.toNat = n at hbound
  unfold following
  split
  · show [UInt8.ofNat n] = [UInt8.ofNat (0 + n)]
    rw [Nat.zero_add]
  · split
    · have hlead : n / 64 % 32 + 192 = 192 + n / 64 := by omega
      rw [hlead, Nat.add_comm (n % 64)]
      rfl
    · split
      · have hlead : n / 4096 % 16 + 224 = 224 + n / 64 / 64 := by omega
        rw [hlead, Nat.add_comm (n / 64 % 64), Nat.add_comm (n % 64)]
        rfl
      · have hlead : n / 262144 % 8 + 240 = 240 + n / 64 / 64 / 64 := by omega
        have hnext : n / 4096 % 64 + 128 = 128 + n / 64 / 64 % 64 := by omega
        rw [hlead, hnext, Nat.add_comm (n / 64 % 64), Nat.add_comm (n % 64)]
        rfl

/-- The mark of a first byte tells how many others follow, and with that the size of the number. -/
theorem following_cases {n : Nat} (hn : n < 1114112) :
    (following n = 0 ∧ n ≤ 127 ∧ firstByte n < 128) ∨
      (following n = 1 ∧ (127 < n ∧ n ≤ 2047) ∧ 192 ≤ firstByte n ∧ firstByte n < 224) ∨
      (following n = 2 ∧ (2047 < n ∧ n ≤ 65535) ∧ 224 ≤ firstByte n ∧ firstByte n < 240) ∨
      (following n = 3 ∧ 65535 < n ∧ 240 ≤ firstByte n ∧ firstByte n < 248) := by
  unfold firstByte
  by_cases hone : n ≤ 127
  · have hk : following n = 0 := by rw [following, if_pos hone]
    rw [hk]
    refine Or.inl ⟨rfl, hone, ?_⟩
    show 0 + n < 128
    omega
  · by_cases htwo : n ≤ 2047
    · have hk : following n = 1 := by rw [following, if_neg hone, if_pos htwo]
      rw [hk]
      refine Or.inr (Or.inl ⟨rfl, by omega, ?_⟩)
      show 192 ≤ 192 + n / 64 ∧ 192 + n / 64 < 224
      omega
    · by_cases hthree : n ≤ 65535
      · have hk : following n = 2 := by rw [following, if_neg hone, if_neg htwo, if_pos hthree]
        rw [hk]
        refine Or.inr (Or.inr (Or.inl ⟨rfl, by omega, ?_⟩))
        show 224 ≤ 224 + n / 64 / 64 ∧ 224 + n / 64 / 64 < 240
        omega
      · have hk : following n = 3 := by rw [following, if_neg hone, if_neg htwo, if_neg hthree]
        rw [hk]
        refine Or.inr (Or.inr (Or.inr ⟨rfl, by omega, ?_⟩))
        show 240 ≤ 240 + n / 64 / 64 / 64 ∧ 240 + n / 64 / 64 / 64 < 248
        omega

theorem decides_utf8EncodeChar {c d : Char} (h : c < d) :
    Decides (String.utf8EncodeChar c) (String.utf8EncodeChar d) := by
  have hlt : c.toNat < d.toNat := h
  have hc := following_cases (toNat_lt c)
  have hd := following_cases (toNat_lt d)
  rw [utf8EncodeChar_eq_marked, utf8EncodeChar_eq_marked]
  have hle : following c.toNat ≤ following d.toNat := by omega
  rcases Nat.lt_or_eq_of_le hle with hmore | hsame
  · -- More bytes follow the first one, which is greater for that alone.
    have hfirst : firstByte c.toNat < firstByte d.toNat := by omega
    obtain ⟨rest, hrest⟩ :=
      exists_marked_eq_cons (markFor (following c.toNat)) (following c.toNat) c.toNat
    obtain ⟨rest', hrest'⟩ :=
      exists_marked_eq_cons (markFor (following d.toNat)) (following d.toNat) d.toNat
    rw [hrest, hrest']
    exact decides_of_lt hfirst (by omega) rest rest'
  · rw [hsame]
    apply decides_marked hlt
    show firstByte d.toNat < 256
    omega

theorem utf8EncodeChar_ne_nil (c : Char) : String.utf8EncodeChar c ≠ [] := by
  intro h
  have hlength := String.length_utf8EncodeChar c
  have hpos := Char.utf8Size_pos c
  rw [h, List.length_nil] at hlength
  omega

theorem bytes_eq_flatMap (s : String) : bytes s = s.toList.flatMap String.utf8EncodeChar := by
  have hbytes : s.toByteArray = s.toList.utf8Encode := by
    rw [← String.toByteArray_ofList, String.ofList_toList]
  rw [bytes, hbytes, List.utf8Encode]
  exact List.toList_data_toByteArray

theorem bytesBefore_flatMap {cs ds : List Char} (h : List.Lex (· < ·) cs ds) :
    BytesBefore (cs.flatMap String.utf8EncodeChar) (ds.flatMap String.utf8EncodeChar) := by
  induction h with
  | nil =>
      next d ds =>
      rw [List.flatMap_nil, List.flatMap_cons]
      cases hd : String.utf8EncodeChar d with
      | nil => exact absurd hd (utf8EncodeChar_ne_nil d)
      | cons first rest => exact .nil
  | rel h =>
      rw [List.flatMap_cons, List.flatMap_cons]
      exact decides_utf8EncodeChar h _ _
  | cons h ih =>
      rw [List.flatMap_cons, List.flatMap_cons]
      exact List.Lex.append_left _ ih _

/-- Texts have the order of their bytes. -/
theorem bytesBefore_iff {s t : String} : BytesBefore (bytes s) (bytes t) ↔ s < t := by
  have hforward : ∀ {s t : String}, s < t → BytesBefore (bytes s) (bytes t) := by
    intro s t h
    rw [bytes_eq_flatMap, bytes_eq_flatMap]
    exact bytesBefore_flatMap (String.lt_iff.1 h)
  refine ⟨fun h => ?_, hforward⟩
  -- Otherwise the texts are equal or in the other order, and so would be their bytes.
  by_contra hnot
  by_cases hback : t < s
  · exact List.lt_asymm h (hforward hback)
  · obtain rfl : s = t := String.le_antisymm (String.not_lt.1 hback) (String.not_lt.1 hnot)
    exact List.lt_irrefl _ h

end MarkedSheet.Text
