import MarkedSheet.Registry.Basic

/-!
# The standard codes

The codes that are known when no other registry is given: the fields of a water-quality report,
the columns of its table of results and the mark below that table.
-/

namespace MarkedSheet.Registry

/-- A code for a field of the report. -/
def basic (code canonicalName displayName description : String) : Entry :=
  ⟨code, .basic, canonicalName, displayName, description⟩

/-- A code for a column of the line-item table. -/
def column (role : Role) (code canonicalName displayName description : String) : Entry :=
  ⟨code, .column role, canonicalName, displayName, description⟩

/-- The codes for the report and the parties to it. -/
def reportEntries : List Entry :=
  [basic "#report_no" "report_number" "报告编号" "报告编号",
   basic "#sample_no" "sample_number" "样品编号" "样品编号",
   basic "#sample_type" "sample_type_name" "样品类型" "样品类型",
   basic "#company" "company_name" "委托单位" "委托单位名称",
   basic "#customer_unit" "customer_unit" "被检单位" "被检单位",
   basic "#customer_plant" "customer_plant" "被检水厂" "被检水厂",
   basic "#unit_address" "unit_address" "单位地址" "单位地址"]

/-- The codes for the sampling. -/
def samplingEntries : List Entry :=
  [basic "#sampling_date" "sampling_date" "采样日期" "采样日期",
   basic "#sampler" "sampler" "采样人" "采样人员",
   basic "#sampling_location" "sampling_location" "采样地点" "采样地点",
   basic "#sampling_basis" "sampling_basis" "采样依据" "采样依据标准",
   basic "#sample_source" "sample_source" "样品来源" "样品来源",
   basic "#sample_status" "sample_status" "样品状态" "样品状态描述",
   basic "#sample_received" "sample_received_date" "收样日期" "收样日期"]

/-- The codes for the examination and its dates. -/
def detectionEntries : List Entry :=
  [basic "#detection_date" "detection_date" "检测日期" "检测日期",
   basic "#detection_person" "detection_person" "检测人" "检测人员",
   basic "#review_person" "review_person" "审核人" "审核人员",
   basic "#report_date" "report_date" "报告编制日期" "报告编制日期"]

/-- The codes for the findings and remarks. -/
def remarkEntries : List Entry :=
  [basic "#product_standard" "product_standard" "产品标准" "产品标准/检测依据",
   basic "#detection_items" "detection_items_description" "检测项目" "检测项目列表描述",
   basic "#test_conclusion" "test_conclusion" "检测结论" "检测结论",
   basic "#additional_info" "additional_info" "附加信息" "附加信息或说明",
   basic "#attachment_info" "attachment_info" "附件信息" "附件说明",
   basic "#remark" "remark" "备注" "备注信息"]

/-- The codes for the columns of the line-item table. -/
def columnEntries : List Entry :=
  [column .index "#dt_index" "index" "序号" "检测项目序号（自动编号）",
   column .name "#dt_name" "name" "检测项目" "检测项目名称",
   column .unit "#dt_unit" "unit" "单位" "检测项目单位",
   column .result "#dt_result" "result" "检测结果" "检测结果值",
   column .limit "#dt_limit" "limit" "标准限值" "标准限值",
   column .method "#dt_method" "method" "检测方法" "检测方法/依据",
   column .judgment "#dt_judgment" "judgment" "单项判定" "单项判定结果"]

/-- The code for the mark below the line-item table. -/
def regionEndEntry : Entry :=
  ⟨"#dt_end", .control .regionEnd, "data_region_end", "数据区结束",
    "标记数据区域的结束位置（用于多页数据表）"⟩

/-- The standard codes, in order. -/
def standardEntries : List Entry :=
  reportEntries ++ samplingEntries ++ detectionEntries ++ remarkEntries ++ columnEntries ++
    [regionEndEntry]

/-- The positions of the standard codes. -/
def standardIndex : CodeIndex :=
  ⟨(standardEntries.map Entry.code).zipIdx.reverse⟩

theorem enter_standardEntries : CodeIndex.empty.enter 0 standardEntries = .ok standardIndex := by
  rfl

/-- The registry of the standard codes. -/
def standard : Registry :=
  ofIndex enter_standardEntries

end MarkedSheet.Registry
