import Mathlib.Data.List.Sort
import Mathlib.Data.Nat.Digits.Defs

/-!
The digest of a directory tree: its files and symbolic links are written one after another into the hash, in the order of
their names. A name or a target is the text `readdir` or `readlink` returns, as its UTF-8.
-/

namespace Cove.Operations.ClosureDigest
open List

abbrev Bytes := List UInt8

inductive Node where
  | file (executable : Bool) (contents : Bytes)
  | link (target : Bytes)
  | directory (entries : List (Bytes × Node))
  | other

inductive Item where
  | file (path : Bytes) (executable : Bool) (contents : Bytes)
  | link (path target : Bytes)

def joined (relative name : Bytes) : Bytes := if relative = [] then name else relative ++ 47 :: name

def ordered (found : List (Bytes × List Item)) : List (Bytes × List Item) :=
  found.insertionSort fun first second => first.1 ≤ second.1

mutual

/-- The walk refuses a tree with anything else in it. -/
def walk (exclude : List Bytes) (path : Bytes) : Node → Option (List Item)
  | .file executable contents => some [.file path executable contents]
  | .link target => some [.link path target]
  | .directory entries => (walkEntries exclude path entries).map fun found => (ordered found).flatMap Prod.snd
  | .other => none

def walkEntries (exclude : List Bytes) (relative : Bytes) : List (Bytes × Node) → Option (List (Bytes × List Item))
  | [] => some []
  | (name, node) :: rest =>
    let path := joined relative name
    (if path ∈ exclude then some [] else walk exclude path node).bind fun items =>
      (walkEntries exclude relative rest).map fun others => (name, items) :: others

end

def decimal (number : Nat) : Bytes := (Nat.toDigits 10 number).map fun digit => digit.toNat.toUInt8

def prefixed (text : Bytes) : Bytes := decimal text.length ++ 0 :: (text ++ [0])

/-- What is written for an item: `L` and `F` are 76 and 70, `x` and `-` 120 and 45. -/
def Item.bytes : Item → Bytes
  | .link path target => 76 :: 0 :: (prefixed path ++ prefixed target)
  | .file path executable contents =>
    70 :: 0 :: (prefixed path ++ (if executable then 120 else 45) :: 0 :: (decimal contents.length ++ 0 :: contents))

/-- The bytes fed to the hash. -/
def closureDigest (exclude : List Bytes) (root : List (Bytes × Node)) : Option Bytes :=
  (walk exclude [] (.directory root)).map (·.flatMap Item.bytes)

/-! ### Unique parsing -/

theorem digit_byte {number : Nat} {digit : Char} (listed : digit ∈ Nat.toDigits 10 number) :
    Char.ofNat digit.toNat.toUInt8.toNat = digit ∧ digit.toNat.toUInt8 ≠ 0 := by
  have isDigit := Nat.isDigit_of_mem_toDigits (by decide) (by decide) listed
  simp only [Char.isDigit, Bool.and_eq_true, decide_eq_true_eq, ge_iff_le, UInt32.le_iff_toNat_le] at isDigit
  have low : 48 ≤ digit.toNat := isDigit.1
  have high : digit.toNat ≤ 57 := isDigit.2
  have same : digit.toNat.toUInt8.toNat = digit.toNat := Nat.mod_eq_of_lt (by omega)
  refine ⟨by rw [same, Char.ofNat_toNat], fun zero => ?_⟩
  rw [zero] at same
  simp at same
  omega

theorem zero_not_mem_decimal (number : Nat) : 0 ∉ decimal number := by
  intro member
  obtain ⟨digit, listed, zero⟩ := mem_map.mp member
  exact (digit_byte listed).2 zero

theorem decimal_injective {first second : Nat} (same : decimal first = decimal second) : first = second := by
  have back (number : Nat) : (decimal number).map (fun byte => Char.ofNat byte.toNat) = Nat.toDigits 10 number := by
    rw [decimal, map_map]
    conv_rhs => rw [← map_id (Nat.toDigits 10 number)]
    apply map_congr_left
    exact fun digit listed => (digit_byte listed).1
  have digits : Nat.toDigits 10 first = Nat.toDigits 10 second := by rw [← back, same, back]
  rw [← Nat.ofDigitChars_toDigits (b := 10) (n := first) (by decide) (by decide), digits]
  exact Nat.ofDigitChars_toDigits (by decide) (by decide)

variable {first second rest others : Bytes}

theorem decimal_append {n m : Nat} (same : decimal n ++ 0 :: rest = decimal m ++ 0 :: others) : n = m ∧ rest = others := by
  have digits (number : Nat) (tail : Bytes) : (decimal number ++ 0 :: tail).takeWhile (· != 0) = decimal number := by
    rw [takeWhile_append_of_pos]
    · simp
    · intro byte member
      rw [bne_iff_ne]
      rintro rfl
      exact zero_not_mem_decimal number member
  obtain rfl : n = m := by
    apply decimal_injective
    rw [← digits n rest, same, digits]
  exact ⟨rfl, (cons.inj (append_cancel_left same)).2⟩

theorem prefixed_append (same : prefixed first ++ rest = prefixed second ++ others) : first = second ∧ rest = others := by
  simp only [prefixed, append_assoc, cons_append, nil_append] at same
  obtain ⟨lengths, texts⟩ := decimal_append same
  obtain ⟨text, left⟩ := append_inj texts lengths
  exact ⟨text, (cons.inj left).2⟩

theorem Item.bytes_append {item other : Item} (same : item.bytes ++ rest = other.bytes ++ others) :
    item = other ∧ rest = others := by
  cases item with
  | link path target =>
    cases other with
    | link =>
      simp only [Item.bytes, cons_append, append_assoc, cons.injEq, true_and] at same
      obtain ⟨rfl, targets⟩ := prefixed_append same
      obtain ⟨rfl, left⟩ := prefixed_append targets
      exact ⟨rfl, left⟩
    | file => simp [Item.bytes] at same
  | file path executable contents =>
    cases other with
    | link => simp [Item.bytes] at same
    | file _ known _ =>
      simp only [Item.bytes, cons_append, append_assoc, cons.injEq, true_and] at same
      obtain ⟨rfl, modes⟩ := prefixed_append same
      obtain ⟨mode, sizes⟩ := cons.inj modes
      obtain ⟨lengths, texts⟩ := decimal_append (cons.inj sizes).2
      obtain ⟨rfl, left⟩ := append_inj texts lengths
      obtain rfl : executable = known := by
        revert mode
        cases executable <;> cases known <;> decide
      exact ⟨rfl, left⟩

theorem items_eq {items known : List Item} (same : items.flatMap Item.bytes = known.flatMap Item.bytes) : items = known := by
  induction items generalizing known with
  | nil =>
    cases known with
    | nil => rfl
    | cons item => cases item <;> simp [Item.bytes] at same
  | cons item items ih =>
    cases known with
    | nil => cases item <;> simp [Item.bytes] at same
    | cons other known =>
      obtain ⟨rfl, left⟩ := Item.bytes_append same
      rw [ih left]

/-! ### What the walk finds -/

/-- The files and links of a tree, without those excluded. -/
inductive Holds (exclude : List Bytes) : Bytes → Node → Item → Prop where
  | file {path : Bytes} {executable : Bool} {contents : Bytes} :
      Holds exclude path (.file executable contents) (.file path executable contents)
  | link {path target : Bytes} : Holds exclude path (.link target) (.link path target)
  | inside {path name : Bytes} {node : Node} {entries : List (Bytes × Node)} {item : Item} (member : (name, node) ∈ entries)
      (kept : joined path name ∉ exclude) (holds : Holds exclude (joined path name) node item) :
      Holds exclude path (.directory entries) item

variable {exclude : List Bytes} {item : Item}

mutual

theorem mem_walk {path : Bytes} : ∀ (node : Node) {items : List Item}, walk exclude path node = some items →
    (item ∈ items ↔ Holds exclude path node item)
  | .file _ _, _, walked => by
    cases walked
    rw [mem_singleton]
    exact ⟨fun same => same ▸ .file, fun holds => by cases holds; rfl⟩
  | .link _, _, walked => by
    cases walked
    rw [mem_singleton]
    exact ⟨fun same => same ▸ .link, fun holds => by cases holds; rfl⟩
  | .directory entries, _, walked => by
    obtain ⟨found, listed, rfl⟩ := Option.map_eq_some_iff.mp walked
    have inside := mem_walkEntries entries listed
    simp only [mem_flatMap, ordered, mem_insertionSort, inside]
    constructor
    · rintro ⟨name, node, member, kept, holds⟩
      exact .inside member kept holds
    · rintro ⟨⟩
      exact ⟨_, _, ‹_›, ‹_›, ‹_›⟩
  | .other, _, walked => by cases walked

theorem mem_walkEntries {relative : Bytes} : ∀ (entries : List (Bytes × Node)) {found : List (Bytes × List Item)},
    walkEntries exclude relative entries = some found → ((∃ pair ∈ found, item ∈ pair.2) ↔ ∃ name node,
      (name, node) ∈ entries ∧ joined relative name ∉ exclude ∧ Holds exclude (joined relative name) node item)
  | [], _, walked => by
    cases walked
    simp
  | (name, node) :: rest, _, walked => by
    obtain ⟨items, here, left⟩ := Option.bind_eq_some_iff.mp walked
    obtain ⟨others, listed, rfl⟩ := Option.map_eq_some_iff.mp left
    have later := mem_walkEntries rest listed
    have now : item ∈ items ↔ joined relative name ∉ exclude ∧ Holds exclude (joined relative name) node item := by
      split at here
      next left => simp [← Option.some.inj here, left]
      next kept => simp [mem_walk node here, kept]
    simp only [mem_cons, now, later, Prod.mk.injEq, or_and_right, exists_or, and_assoc, exists_and_left,
      exists_eq_left]

end

mutual

/-- Nothing in it but files, links and directories. -/
def regular : Node → Bool
  | .file .. | .link _ => true
  | .directory entries => regularEntries entries
  | .other => false

def regularEntries : List (Bytes × Node) → Bool
  | [] => true
  | (_, node) :: rest => regular node && regularEntries rest

end

mutual

theorem walk_isSome (path : Bytes) : ∀ node, regular node = true → (walk exclude path node).isSome
  | .file .., _ | .link _, _ => rfl
  | .directory entries, regular => by
    rw [walk, Option.isSome_map]
    exact walkEntries_isSome path entries regular

theorem walkEntries_isSome (relative : Bytes) :
    ∀ entries, regularEntries entries = true → (walkEntries exclude relative entries).isSome
  | [], _ => rfl
  | (name, node) :: rest, regular => by
    obtain ⟨here, later⟩ := Bool.and_eq_true_iff.mp regular
    obtain ⟨others, listed⟩ := Option.isSome_iff_exists.mp (walkEntries_isSome relative rest later)
    obtain ⟨items, walked⟩ := Option.isSome_iff_exists.mp (walk_isSome (joined relative name) node here)
    simp only [walkEntries, listed, walked]
    split_ifs <;> rfl

end

end Cove.Operations.ClosureDigest
