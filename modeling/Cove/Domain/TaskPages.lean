import Cove.Domain.RecordBounds
import Cove.Protocol.EventFrame
import Mathlib.Data.String.Basic

/-!
Pages of tasks. A page ends at its limit or before the record that would not fit its response any more, and the next
one begins behind the last task it holds.
-/

namespace Cove.Domain.TaskPages
open Base.Json Domain.RecordBounds Protocol.EventFrame Protocol.Identity Protocol.Operations Protocol.Workspace List

inductive Archived where
  | exclude
  | included
  | only

def Archived.admits : Archived → TaskRecord → Bool
  | .exclude, task => !task.archived
  | .included, _ => true
  | .only, task => task.archived

def pageReserve : JsonSize := ⟨1024, 16⟩

def resourceId (text : String) : Bool := opaqueId text && decide (text.length ≤ 40)

structure Page where
  tasks : List TaskRecord
  nextAfterTaskId : Option String

def Page.json (page : Page) : Value :=
  .obj (("tasks", .arr (page.tasks.map TaskRecord.json)) ::
    (page.nextAfterTaskId.map (fun id => ("nextAfterTaskId", Value.str id))).toList)

def response (id : Value) (page : Page) : Value := .obj [("jsonrpc", .str "2.0"), ("id", id), ("result", page.json)]

def byId (first second : TaskRecord) : Bool := decide (first.taskId ≤ second.taskId)

def matching (stored : List TaskRecord) (archived : Archived) : List TaskRecord :=
  (stored.mergeSort byId).filter archived.admits

def later (rows : List TaskRecord) (afterTaskId : String) : List TaskRecord :=
  rows.filter (fun task => decide (afterTaskId < task.taskId))

def fill (responseBytes : Nat) (tasks : List TaskRecord) (bytes tokens : Nat) : List TaskRecord → List TaskRecord
  | [] => tasks
  | task :: rest =>
    let size := jsonSize task.json
    let bytes := bytes + size.bytes + min tasks.length 1
    let tokens := tokens + size.tokens
    if tasks.length ≠ 0 ∧ (bytes + pageReserve.bytes > responseBytes ∨ tokens + pageReserve.tokens > structureTokens) then
      tasks
    else fill responseBytes (tasks ++ [task]) bytes tokens rest

section
variable (responseBytes limit : Nat) (all : List TaskRecord)

/-- One row beyond the page tells whether another page follows. -/
def list (afterTaskId : String) : Page :=
  let rows := (later all afterTaskId).take (limit + 1)
  let tasks := fill responseBytes [] 0 0 (rows.take limit)
  ⟨tasks, if rows.length > tasks.length then tasks.getLast?.map TaskRecord.taskId else none⟩

/-- The pages a client reads, from a cursor on. -/
def follow : Nat → String → List Page
  | 0, _ => []
  | fuel + 1, afterTaskId =>
    let page := list responseBytes limit all afterTaskId
    page :: page.nextAfterTaskId.elim [] (follow fuel)

end

/-- What a write makes sure of for every record a read can return. -/
def Fits (responseBytes : Nat) (task : TaskRecord) : Prop :=
  let size := jsonSize (.obj [("task", task.json)])
  size.bytes + recordReserve.bytes ≤ responseBytes ∧ size.tokens + recordReserve.tokens ≤ structureTokens

/-- The whole response keeps to both limits, with a request id that is a text of at most 128 characters, a number or
null. -/
def Answers (responseBytes : Nat) (page : Page) : Prop :=
  ∀ id, tokens id = 1 → depth id = 0 → size id ≤ 770 →
    size (response id page) ≤ responseBytes ∧ boundedJsonStructure (response id page) = true

/-- The records of a page, each with its comma, leave room for the envelope. -/
structure Within (responseBytes : Nat) (tasks : List TaskRecord) : Prop where
  bytes : (tasks.map (fun task => size task.json + 1)).sum + 1023 ≤ responseBytes
  tokens : itemTokens (tasks.map TaskRecord.json) + 16 ≤ structureTokens

variable {responseBytes limit : Nat} {all : List TaskRecord}

theorem Fits.within {task : TaskRecord} (fits : Fits responseBytes task) : Within responseBytes [task] := by
  have key : byteLength (quote "task") = 6 := by decide +kernel
  obtain ⟨bytes, count⟩ := fits
  simp only [jsonSize, size_obj (cons_ne_nil _ _), memberSize, key, recordReserve, map_cons, map_nil, sum_cons, sum_nil,
    tokens, memberTokens, memberToken] at bytes count
  constructor <;> simp only [map_cons, map_nil, sum_cons, sum_nil, itemTokens] <;> omega

theorem itemTokens_append (items : List Value) (item : Value) :
    itemTokens (items ++ [item]) = itemTokens items + tokens item := by
  induction items with
  | nil => simp [itemTokens]
  | cons first rest ih => rw [cons_append, itemTokens, ih, itemTokens, Nat.add_assoc]

theorem fill_spec (tasks rest : List TaskRecord) (bytes count : Nat)
    (fits : ∀ task ∈ rest, Within responseBytes [task]) (within : tasks ≠ [] → Within responseBytes tasks)
    (written : bytes + min tasks.length 1 = (tasks.map (fun task => size task.json + 1)).sum)
    (counted : count = itemTokens (tasks.map TaskRecord.json)) :
    ∃ taken, taken <+: rest ∧ fill responseBytes tasks bytes count rest = tasks ++ taken ∧
      (tasks ++ taken ≠ [] → Within responseBytes (tasks ++ taken)) ∧ (rest ≠ [] → tasks ++ taken ≠ []) := by
  induction rest generalizing tasks bytes count with
  | nil => exact ⟨[], prefix_refl _, by simp [fill], by simpa using within, by simp⟩
  | cons task rest ih =>
    have sum : ((tasks ++ [task]).map (fun task => size task.json + 1)).sum =
        bytes + size task.json + min tasks.length 1 + 1 := by
      rw [map_append, sum_append, ← written, map_singleton, sum_singleton]
      omega
    have total : itemTokens ((tasks ++ [task]).map TaskRecord.json) = count + tokens task.json := by
      rw [map_append, map_singleton, itemTokens_append, ← counted]
    simp only [fill]
    split
    · rename_i full
      exact ⟨[], nil_prefix, by simp, by simpa using within, by simpa using full.1⟩
    · rename_i room
      have grown : Within responseBytes (tasks ++ [task]) := by
        by_cases first : tasks.length = 0
        · rw [length_eq_zero_iff.mp first]
          exact fits task mem_cons_self
        · simp only [jsonSize, pageReserve] at room
          exact ⟨by omega, by omega⟩
      obtain ⟨taken, part, filled, kept, -⟩ := ih _ _ _ (fun other member => fits other (mem_cons_of_mem _ member))
        (fun _ => grown) (by simpa using sum.symm) total.symm
      rw [append_assoc, singleton_append] at filled kept
      exact ⟨task :: taken, by simpa using part, filled, kept, by simp⟩

theorem depth_map {α : Type} {json : α → Value} {levels : Nat} (each : ∀ value, depth (json value) ≤ levels)
    (values : List α) : itemDepth (values.map json) ≤ levels + 1 := by
  apply itemDepth_le
  intro item member
  obtain ⟨value, _, rfl⟩ := mem_map.mp member
  exact Nat.succ_le_succ (each value)

theorem depth_errorJson (error : DomainError) : depth error.json ≤ 4 := by
  have runs : itemDepth (error.runs.map runRefJson) ≤ 2 := depth_map (by simp [runRefJson]) error.runs
  rw [DomainError.json, depth_obj, memberDepths_append]
  split <;> simp
  omega

theorem depth_mountJson (mount : MountRecord) : depth mount.json ≤ 5 := by
  have shared : itemDepth (mount.sharedWithTaskIds.map Value.str) ≤ 1 := depth_map (by simp) mount.sharedWithTaskIds
  have text (value : Option String) : depth (nullable value) = 0 := by cases value <;> rfl
  rw [MountRecord.json, depth_obj, memberDepths_append]
  cases mount.error with
  | none =>
    simp [text]
    omega
  | some error =>
    have := depth_errorJson error
    simp [text]
    omega

theorem depth_taskJson (task : TaskRecord) : depth task.json ≤ 8 := by
  have mounts := depth_map depth_mountJson task.workspace.mounts
  simp only [TaskRecord.json, WorkspaceRecord.json, depth_obj, memberDepths_cons, memberDepths_nil, depth_str, depth_num,
    depth_bool, depth_arr]
  omega

theorem depth_response (id : Value) (page : Page) (flat : depth id = 0) : depth (response id page) ≤ 11 := by
  have tasks := depth_map depth_taskJson page.tasks
  simp only [response, Page.json, depth_obj, memberDepths_cons, memberDepths_nil, depth_str, depth_arr, flat]
  cases page.nextAfterTaskId <;> simp <;> omega

theorem answers_of_within {tasks : List TaskRecord} {next : Option String} (floor : 1024 ≤ responseBytes)
    (within : tasks ≠ [] → Within responseBytes tasks) (cursor : ∀ id, next = some id → resourceId id = true) :
    Answers responseBytes ⟨tasks, next⟩ := by
  intro id one flat named
  have deep := depth_response id ⟨tasks, next⟩ flat
  have keys : byteLength (quote "jsonrpc") = 9 ∧ byteLength (quote "id") = 4 ∧ byteLength (quote "result") = 8 ∧
      byteLength (quote "tasks") = 7 ∧ byteLength (quote "nextAfterTaskId") = 17 ∧ size (.str "2.0") = 5 ∧
      size (.arr []) = 2 := by
    decide +kernel
  have items : size (.arr (tasks.map TaskRecord.json)) + 1022 ≤ responseBytes ∧
      tokens (.arr (tasks.map TaskRecord.json)) + 15 ≤ structureTokens := by
    by_cases empty : tasks = []
    · simp only [empty, map_nil, keys, tokens, itemTokens, structureTokens]
      omega
    · obtain ⟨bytes, count⟩ := within empty
      rw [size_arr (by simpa using empty), map_map, tokens]
      simp only [Function.comp_def]
      omega
  rw [boundedJsonStructure, Bool.and_eq_true, decide_eq_true_eq, decide_eq_true_eq]
  refine and_assoc.mp ⟨?_, by omega⟩
  simp only [response, Page.json, size_obj (cons_ne_nil _ _), memberSize, keys, map_cons, map_nil, sum_cons, sum_nil,
    tokens, memberTokens, memberToken, one, structureTokens] at items ⊢
  cases next with
  | none =>
    simp only [Option.map_none, Option.toList_none, map_nil, sum_nil, memberTokens]
    omega
  | some text =>
    obtain ⟨isId, short⟩ := Bool.and_eq_true_iff.mp (cursor text rfl)
    have := of_decide_eq_true short
    have written : size (.str text) = _ := byteLength_quote (plain_of_opaqueId isId)
    simp only [Option.map_some, Option.toList_some, map_cons, map_nil, sum_cons, sum_nil, memberSize, keys, memberTokens,
      memberToken, tokens, written]
    omega

theorem later_next (ordered : all.Pairwise (fun first second => first.taskId < second.taskId)) {afterTaskId : String}
    {front back : List TaskRecord} {last : TaskRecord}
    (split : later all afterTaskId = front ++ last :: back) : later all last.taskId = back := by
  have member : last ∈ later all afterTaskId := by simp [split]
  have passed := of_decide_eq_true (mem_filter.mp member).2
  have inner : later all last.taskId = later (later all afterTaskId) last.taskId := by
    simp only [later, filter_filter]
    apply filter_congr
    intro task _
    rw [Bool.eq_iff_iff, Bool.and_eq_true, decide_eq_true_eq, decide_eq_true_eq]
    exact ⟨fun after => ⟨after, passed.trans after⟩, And.left⟩
  have sorted : (later all afterTaskId).Pairwise (fun first second => first.taskId < second.taskId) := ordered.filter _
  rw [split, pairwise_append, pairwise_cons] at sorted
  rw [inner, split, later, filter_append, filter_cons, filter_eq_nil_iff.mpr, filter_eq_self.mpr]
  · simp
  · simpa using sorted.2.1.1
  · intro task member
    rw [decide_eq_true_eq]
    exact lt_asymm (sorted.2.2 task member last mem_cons_self)

section
variable (positive : 1 ≤ limit) (floor : 1024 ≤ responseBytes) (fits : ∀ task ∈ all, Within responseBytes [task])
  (ids : ∀ task ∈ all, resourceId task.taskId = true)
include positive floor fits ids

/-- A page holds all tasks that are left, or ends at one behind which others follow. -/
theorem list_cases (afterTaskId : String) :
    let page := list responseBytes limit all afterTaskId
    Answers responseBytes page ∧ (page = ⟨later all afterTaskId, none⟩ ∨
      ∃ front last back, later all afterTaskId = front ++ last :: back ∧ back ≠ [] ∧
        page = ⟨front ++ [last], some last.taskId⟩) := by
  generalize whole : later all afterTaskId = rest
  have kept : ∀ task ∈ rest, task ∈ all := fun task member => mem_of_mem_filter (whole ▸ member)
  obtain ⟨taken, ⟨more, joined⟩, filled, within, some_taken⟩ := fill_spec [] ((rest.take (limit + 1)).take limit) 0 0
    (fun task member => fits task (kept task (mem_of_mem_take (mem_of_mem_take member)))) (by simp) rfl rfl
  have parts : rest = taken ++ (more ++ rest.drop limit) := by
    rw [← append_assoc, joined, take_take, Nat.min_eq_left (Nat.le_succ _), take_append_drop]
  have short := congrArg length joined
  have long := congrArg length parts
  simp only [list, whole, filled, nil_append, length_append, length_take] at short long within ⊢
  by_cases end_ : more ++ rest.drop limit = []
  · rw [end_, append_nil] at parts
    rw [if_neg (by simp [parts]), parts]
    exact ⟨answers_of_within floor within nofun, .inl rfl⟩
  · have left := length_pos_iff.mpr end_
    rw [length_append] at left
    rcases eq_nil_or_concat taken with rfl | ⟨front, last, rfl⟩
    · refine absurd rfl (some_taken (length_pos_iff.mp ?_))
      simp at short long left ⊢
      omega
    · rw [concat_eq_append] at *
      have listed : last ∈ all := kept last (parts ▸ by simp)
      rw [if_pos (by simp at *; omega)]
      simp only [getLast?_append, getLast?_singleton, Option.some_or, Option.map_some]
      exact ⟨answers_of_within floor within (by simpa using ids last listed), .inr ⟨front, last, _, by simpa using parts, end_, rfl⟩⟩

/-- Every task is on one of the pages, the pages end, and none is empty while tasks are left. -/
theorem follow_spec (ordered : all.Pairwise (fun first second => first.taskId < second.taskId)) (fuel : Nat)
    (afterTaskId : String) (enough : (later all afterTaskId).length < fuel) :
    let pages := follow responseBytes limit all fuel afterTaskId
    pages.flatMap Page.tasks = later all afterTaskId ∧
    (∃ others final, pages = others ++ [final] ∧ final.nextAfterTaskId = none) ∧
    ∀ page ∈ pages, (later all afterTaskId ≠ [] → page.tasks ≠ []) ∧ Answers responseBytes page := by
  induction fuel generalizing afterTaskId with
  | zero => omega
  | succ fuel ih =>
    obtain ⟨answers, page | ⟨front, last, back, split, more, page⟩⟩ := list_cases positive floor fits ids afterTaskId
    · simp only [follow, page, Option.elim_none, mem_singleton, forall_eq] at answers ⊢
      exact ⟨by simp, ⟨[], _, rfl, rfl⟩, id, answers⟩
    · have next := later_next ordered split
      rw [split, length_append, length_cons] at enough
      obtain ⟨shown, ⟨others, final, pages, ended⟩, each⟩ := ih last.taskId (by rw [next]; omega)
      rw [next] at shown each
      simp only [follow, page, Option.elim_some, mem_cons, forall_eq_or_imp] at answers ⊢
      refine ⟨by simp [shown, split], ⟨_ :: others, final, by rw [pages, cons_append], ended⟩, ⟨by simp, answers⟩, ?_⟩
      exact fun page member => ⟨fun _ => (each page member).1 more, (each page member).2⟩

end

/-- The matching tasks in the order of their ids are the tasks of the pages a client reads, one after the other. Every
page fits its response, and none is empty unless no task matches; the empty one needs the floor of the budget. -/
theorem task_pages (responseBytes limit : Nat) (positive : 1 ≤ limit) (floor : 1024 ≤ responseBytes) (stored : List TaskRecord) (archived : Archived)
    (unique : (stored.map TaskRecord.taskId).Nodup) (ids : ∀ task ∈ stored, resourceId task.taskId = true)
    (fits : ∀ task ∈ stored, Fits responseBytes task) : let all := matching stored archived
    let pages := follow responseBytes limit all (all.length + 1) ""
    (∀ task, task ∈ all ↔ task ∈ stored ∧ archived.admits task = true) ∧
    all.Pairwise (fun first second => first.taskId < second.taskId) ∧ pages.flatMap Page.tasks = all ∧
    (∃ others final, pages = others ++ [final] ∧ final.nextAfterTaskId = none) ∧
    ∀ page ∈ pages, (all ≠ [] → page.tasks ≠ []) ∧ Answers responseBytes page := by
  intro all pages
  have known : ∀ task, task ∈ all ↔ task ∈ stored ∧ archived.admits task = true := by simp [all, matching]
  have ordered : all.Pairwise (fun first second => first.taskId < second.taskId) := by
    have sorted : (stored.mergeSort byId).Pairwise (fun first second => byId first second = true) :=
      pairwise_mergeSort (by simpa [byId] using fun _ _ _ => le_trans) (by simpa [byId] using fun _ _ => le_total _ _) stored
    have apart := ((mergeSort_perm stored byId).map TaskRecord.taskId).nodup_iff.mpr unique
    refine ((sorted.and (pairwise_map.mp apart)).imp ?_).filter _
    exact fun both => lt_of_le_of_ne (of_decide_eq_true both.1) both.2
  have whole : later all "" = all := by
    apply filter_eq_self.mpr
    intro task member
    have valid := ids task ((known task).mp member).1
    rw [decide_eq_true_eq, String.lt_iff_toList_lt]
    unfold resourceId opaqueId at valid
    split at valid
    · cases valid
    rename_i chars
    rw [chars]
    exact nil_lt_cons _ _
  have read := follow_spec positive floor (fun task member => (fits task ((known task).mp member).1).within)
    (fun task member => ids task ((known task).mp member).1) ordered (all.length + 1) "" (by rw [whole]; omega)
  rw [whole] at read
  exact ⟨known, ordered, read⟩

def note (taskId : String) : TaskRecord := ⟨taskId, 1, "Note", "note", false, 0, ⟨"w1", 1, "/tasks/note", .ready, []⟩⟩

/-- Two tasks on two pages: the second is read from behind the first. -/
theorem note_paged : let all := matching [note "a1", note "a2"] .exclude
    let pages := follow 4096 1 all (all.length + 1) ""
    Fits 4096 (note "a1") ∧ pages.map (fun page => (page.tasks.map TaskRecord.taskId, page.nextAfterTaskId)) =
      [(["a1"], some "a1"), (["a2"], none)] ∧ pages.flatMap Page.tasks = all := by
  have fits : ∀ task ∈ [note "a1", note "a2"], Fits 4096 task := by
    simp only [mem_cons, not_mem_nil, or_false, forall_eq_or_imp, forall_eq]
    exact ⟨⟨by decide +kernel, by decide +kernel⟩, by decide +kernel, by decide +kernel⟩
  have sorted : matching [note "a1", note "a2"] .exclude = [note "a1", note "a2"] := by
    rw [matching, mergeSort_of_pairwise (by simp [byId, note])]
    rfl
  refine ⟨fits _ mem_cons_self, ?_, (task_pages 4096 1 le_rfl (by decide) _ .exclude (by simp [note]) (by simp; decide) fits).2.2.1⟩
  simp only [sorted]
  decide +kernel

/-- Where no task matches, the one page is empty. -/
theorem empty_page : (follow 4096 1 (matching [] .exclude) 1 "").map Page.tasks = [[]] := by
  simp [follow, list, later, matching, fill]

end Cove.Domain.TaskPages
