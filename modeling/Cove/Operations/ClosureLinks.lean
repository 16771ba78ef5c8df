import Cove.Operations.ClosureDigest

/-!
The links of a closure. The check reads each target as text, `..` taking back the name before it; the kernel follows that
name first when it is a link. A path is its segments.
-/

namespace Cove.Operations.ClosureLinks
open ClosureDigest List

abbrev Path := List Bytes

def dot : Bytes := [46]

def dotDot : Bytes := [46, 46]

def segments (text : Bytes) : Path := text.splitOn 47

def isAbsolute (text : Bytes) : Bool := text.head? == some 47

/-- `posix.normalize` on a relative path: what stands so far, the last segment first. -/
def push (stack : Path) (segment : Bytes) : Path :=
  if segment = [] ∨ segment = dot then stack
  else if segment = dotDot then
    match stack with
    | [] => [dotDot]
    | top :: below => if top = dotDot then dotDot :: stack else below
  else segment :: stack

def normalize (path : Path) : Path := (path.foldl push []).reverse

def escapes (path : Path) (target : Bytes) : Bool :=
  isAbsolute target || (normalize (path.dropLast ++ segments target)).head? == some dotDot

mutual

/-- The links in the order of the walk. -/
def walk (path : Path) : Node → List (Path × Bytes)
  | .link target => [(path, target)]
  | .directory entries => walkEntries path entries
  | .file .. | .other => []

def walkEntries (path : Path) : List (Bytes × Node) → List (Path × Bytes)
  | [] => []
  | (name, node) :: rest => walk (path ++ [name]) node ++ walkEntries path rest

end

/-- The first link that the check refuses. -/
def escapingLink (root : Node) : Option Path :=
  ((walk [] root).find? fun link => escapes link.1 link.2).map Prod.fst

/-! ### The kernel -/

def lookup : Node → Path → Option Node
  | node, [] => some node
  | .directory entries, name :: rest => (entries.lookup name).bind (lookup · rest)
  | _, _ :: _ => none

/-- Whether the kernel leaves the root in its next steps, from a directory below it with these segments before it. A link
is followed where it stands; a name that is missing ends the walk, as does a file. -/
def leaves (root : Node) : Nat → Path → Path → Bool
  | 0, _, _ | _, _, [] => false
  | steps + 1, here, segment :: rest =>
    if segment = [] ∨ segment = dot then leaves root steps here rest
    else if segment = dotDot then here == [] || leaves root steps here.dropLast rest
    else
      match lookup root (here ++ [segment]) with
      | some (.directory _) => leaves root steps (here ++ [segment]) rest
      | some (.link target) => isAbsolute target || leaves root steps here (segments target ++ rest)
      | _ => false

/-- `a/up` leads to the root. As text the target of `a/o`, `up/..`, is `a`; the kernel follows `up` and takes `..` there. -/
def climbing : Node :=
  .directory [([97], .directory [([117, 112], .link dotDot), ([111], .link [117, 112, 47, 46, 46])])]

def Plain (segment : Bytes) : Prop := segment ≠ [] ∧ segment ≠ dot ∧ segment ≠ dotDot

instance : DecidablePred Plain := fun _ => inferInstanceAs (Decidable (_ ∧ _))

/-- After its first name a target has no `..`. -/
def climbsFirst (target : Bytes) : Bool :=
  !((segments target).dropWhile fun segment => !decide (Plain segment)).contains dotDot

/-- From this far below the root the segments lead back at most to the root, and after a name no more. -/
def Stays : Nat → Path → Prop
  | _, [] => True
  | depth, segment :: rest =>
    if segment = [] ∨ segment = dot then Stays depth rest
    else if segment = dotDot then 0 < depth ∧ Stays (depth - 1) rest
    else dotDot ∉ rest

variable {stack path rest here : Path} {segment : Bytes} {depth : Nat}

theorem stays_of_not_mem (names : dotDot ∉ path) : Stays depth path := by
  induction path with
  | nil => trivial
  | cons segment rest ih =>
    obtain ⟨first, later⟩ := not_or.mp (mt mem_cons.mpr names)
    unfold Stays
    rw [if_neg (Ne.symm first)]
    split_ifs
    · exact ih later
    · exact later

theorem Stays.append (stays : Stays depth path) (names : dotDot ∉ rest) : Stays depth (path ++ rest) := by
  induction path generalizing depth with
  | nil => exact stays_of_not_mem names
  | cons segment path ih =>
    rw [cons_append]
    unfold Stays at stays ⊢
    split_ifs at stays ⊢
    · exact ih stays
    · exact ⟨stays.1, ih stays.2⟩
    · exact fun member => (mem_append.mp member).elim stays names

theorem push_plain (plain : Plain segment) : push stack segment = segment :: stack := by
  simp [push, plain.1, plain.2.1, plain.2.2]

theorem foldl_push_plain (names : ∀ segment ∈ path, Plain segment) : path.foldl push stack = path.reverse ++ stack := by
  induction path generalizing stack with
  | nil => rfl
  | cons segment rest ih =>
    rw [foldl_cons, push_plain (names segment (by simp)), ih fun other member => names other (by simp [member])]
    simp

/-- A `..` with nothing before it is never taken back. -/
theorem push_bottom (bottom : stack.getLast? = some dotDot) : (push stack segment).getLast? = some dotDot := by
  unfold push
  split_ifs
  · exact bottom
  · cases stack with
    | nil => rfl
    | cons top below =>
      cases below with
      | nil => simp_all
      | cons next below =>
        dsimp only
        split_ifs <;> simp_all
  · cases stack <;> simp_all

theorem foldl_bottom (bottom : stack.getLast? = some dotDot) : (path.foldl push stack).getLast? = some dotDot := by
  induction path generalizing stack with
  | nil => exact bottom
  | cons segment rest ih => exact ih (push_bottom bottom)

/-- By induction on the segments: while `..` is read, the text takes back the names that the kernel climbs. -/
theorem stays_of_foldl (names : ∀ segment ∈ stack, Plain segment)
    (first : dotDot ∉ path.dropWhile fun segment => !decide (Plain segment))
    (inside : (path.foldl push stack).getLast? ≠ some dotDot) : Stays stack.length path := by
  induction path generalizing stack with
  | nil => trivial
  | cons segment rest ih =>
    unfold Stays
    split_ifs with skipped climbs
    · have plain : ¬Plain segment := by simp only [Plain]; tauto
      refine ih names (by simpa [plain] using first) ?_
      simpa [push, skipped] using inside
    · subst climbs
      have plain : ¬Plain dotDot := fun plain => plain.2.2 rfl
      have first : dotDot ∉ rest.dropWhile fun segment => !decide (Plain segment) := by simpa [plain] using first
      cases stack with
      | nil => exact absurd (foldl_bottom getLast?_singleton) inside
      | cons top below =>
        refine ⟨Nat.succ_pos _, ih (fun segment member => names segment (by simp [member])) first ?_⟩
        have kept : push (top :: below) dotDot = below := by simp [push, skipped, (names top (by simp)).2.2]
        rwa [foldl_cons, kept] at inside
    · have plain : Plain segment := by simp only [Plain]; tauto
      simp only [dropWhile_cons, plain] at first
      simp_all

theorem stays_of_not_escapes {target : Bytes} (names : ∀ segment ∈ here, Plain segment) (first : climbsFirst target = true)
    (inside : escapes (here ++ [segment]) target = false) : Stays here.length (segments target) := by
  have bottom : ((segments target).foldl push here.reverse).getLast? ≠ some dotDot := by
    simpa [escapes, normalize, foldl_push_plain names] using (Bool.or_eq_false_iff.mp inside).2
  have stays := stays_of_foldl (fun segment member => names segment (mem_reverse.mp member))
    (by simpa [climbsFirst] using first) bottom
  rwa [length_reverse] at stays

/-! ### The walk -/

theorem walk_subset {entries : List (Bytes × Node)} {name : Bytes} {node : Node} (found : entries.lookup name = some node) :
    walk (path ++ [name]) node ⊆ walkEntries path entries := by
  induction entries with
  | nil => cases found
  | cons entry rest ih =>
    obtain ⟨other, first⟩ := entry
    rw [walkEntries]
    rw [lookup_cons] at found
    cases same : name == other with
    | true =>
      simp only [same, Option.some.injEq] at found
      rw [eq_of_beq same, found]
      exact subset_append_left _ _
    | false =>
      simp only [same] at found
      exact subset_append_of_subset_right _ (ih found)

/-- The walk passes every link that a lookup can find. -/
theorem mem_walk (here : Path) {node : Node} {target : Bytes} (found : lookup node path = some (.link target)) :
    (here ++ path, target) ∈ walk here node := by
  induction path generalizing node here with
  | nil => cases node <;> simp_all [lookup, walk]
  | cons name rest ih =>
    cases node with
    | directory entries =>
      obtain ⟨child, entry, found⟩ := Option.bind_eq_some_iff.mp found
      have member := walk_subset entry (ih (here ++ [name]) found)
      rwa [append_assoc] at member
    | file _ _ | link _ | other => cases found

section Run
variable {root : Node} (checked : escapingLink root = none) (climb : ∀ link ∈ walk [] root, climbsFirst link.2 = true)
include checked climb

/-- By induction on the steps: below the root stand as many names as the segments before the first name climb. -/
theorem leaves_eq_false (steps : Nat) (names : ∀ segment ∈ here, Plain segment) (stays : Stays here.length path) :
    leaves root steps here path = false := by
  induction steps generalizing here path with
  | zero => rfl
  | succ steps ih =>
    cases path with
    | nil => rfl
    | cons segment rest =>
      unfold leaves
      unfold Stays at stays
      split_ifs at stays ⊢ with skipped climbs
      · exact ih names stays
      · obtain ⟨below, stays⟩ := stays
        rw [← length_dropLast] at stays
        rw [ih (fun segment member => names segment ((dropLast_sublist here).mem member)) stays, Bool.or_false,
          beq_eq_false_iff_ne]
        exact ne_nil_of_length_pos below
      · have plain : Plain segment := by simp only [Plain]; tauto
        split
        · refine ih (fun other member => ?_) (stays_of_not_mem stays)
          rcases mem_append.mp member with member | member
          · exact names other member
          · exact mem_singleton.mp member ▸ plain
        · next target found =>
          have passed := mem_walk [] found
          have inside : escapes (here ++ [segment]) target = false := by
            simpa using find?_eq_none.mp (Option.map_eq_none_iff.mp checked) _ passed
          rw [(Bool.or_eq_false_iff.mp inside).1, Bool.false_or]
          exact ih names ((stays_of_not_escapes names (climb _ passed) inside).append stays)
        · rfl

end Run

end Cove.Operations.ClosureLinks
