import Mathlib.Data.List.Basic
import Mathlib.Tactic

/-!
JSON values, the text `JSON.stringify` writes for them and the UTF-8 size of that text.
-/

namespace Cove.Base.Json
open List Bool

inductive Value where
  | null
  | bool (value : Bool)
  | num (value : Int)
  | str (text : String)
  | arr (items : List Value)
  | obj (members : List (String × Value))

variable (text : List Char)

def byteLength : Nat := (text.map Char.utf8Size).sum

@[simp] theorem byteLength_nil : byteLength [] = 0 := rfl

@[simp] theorem byteLength_cons (char : Char) (text : List Char) :
    byteLength (char :: text) = char.utf8Size + byteLength text := by
  simp [byteLength]

@[simp] theorem byteLength_append (left right : List Char) :
    byteLength (left ++ right) = byteLength left + byteLength right := by
  simp [byteLength]

def utf8 : List UInt8 := text.flatMap String.utf8EncodeChar

theorem length_utf8 : (utf8 text).length = byteLength text := by
  induction text with
  | nil => rfl
  | cons char rest ih =>
    simp only [utf8, flatMap_cons, length_append, String.length_utf8EncodeChar, byteLength_cons] at ih ⊢
    omega

theorem length_le_byteLength : text.length ≤ byteLength text := by
  induction text with
  | nil => exact Nat.le_refl 0
  | cons char rest ih =>
    have one := char.utf8Size_pos
    simp only [length_cons, byteLength_cons]
    omega

def hexDigit (value : Nat) : Char := "0123456789abcdef".toList.getD value '0'

/-- Quotes, backslashes and control characters are escaped. -/
def escape (char : Char) : List Char :=
  if char = '\"' then ['\\', '\"']
  else if char = '\\' then ['\\', '\\']
  else if char.toNat = 8 then ['\\', 'b']
  else if char.toNat = 9 then ['\\', 't']
  else if char.toNat = 10 then ['\\', 'n']
  else if char.toNat = 12 then ['\\', 'f']
  else if char.toNat = 13 then ['\\', 'r']
  else if char.toNat < 32 then ['\\', 'u', '0', '0', hexDigit (char.toNat / 16), hexDigit (char.toNat % 16)]
  else [char]

def quote (text : String) : List Char := '\"' :: (text.toList.flatMap escape ++ ['\"'])

/-- Printable ASCII that needs no escape. -/
def plain (char : Char) : Bool := 32 ≤ char.toNat && char.toNat < 127 && char != '\"' && char != '\\'

def joined : List (List Char) → List Char
  | [] => []
  | [text] => text
  | text :: rest => text ++ ',' :: joined rest

mutual
def stringify : Value → List Char
  | .null => "null".toList
  | .bool value => (toString value).toList
  | .num value => (toString value).toList
  | .str text => quote text
  | .arr items => '[' :: (joined (stringifyItems items) ++ [']'])
  | .obj members => '\x7b' :: (joined (stringifyMembers members) ++ ['\x7d'])

def stringifyItems : List Value → List (List Char)
  | [] => []
  | item :: items => stringify item :: stringifyItems items

def stringifyMembers : List (String × Value) → List (List Char)
  | [] => []
  | member :: members => stringifyMember member :: stringifyMembers members

def stringifyMember : String × Value → List Char
  | (key, value) => quote key ++ ':' :: stringify value
end

example : stringify (.arr [.num (-12), .str "x\n", .arr [], .null]) = "[-12,\"x\\n\",[],null]".toList := by
  decide +kernel

def size (value : Value) : Nat := byteLength (stringify value)

mutual
def tokens : Value → Nat
  | .arr items => 1 + itemTokens items
  | .obj members => 1 + memberTokens members
  | _ => 1

def itemTokens : List Value → Nat
  | [] => 0
  | item :: items => tokens item + itemTokens items

def memberTokens : List (String × Value) → Nat
  | [] => 0
  | member :: members => memberToken member + memberTokens members

def memberToken : String × Value → Nat
  | (_, value) => 1 + tokens value
end

mutual
/-- How far below the value its deepest part lies. -/
def depth : Value → Nat
  | .arr items => itemDepth items
  | .obj members => memberDepths members
  | _ => 0

def itemDepth : List Value → Nat
  | [] => 0
  | item :: items => max (depth item + 1) (itemDepth items)

def memberDepths : List (String × Value) → Nat
  | [] => 0
  | member :: members => max (memberDepth member + 1) (memberDepths members)

def memberDepth : String × Value → Nat
  | (_, value) => depth value
end

@[simp] theorem depth_null : depth .null = 0 := rfl

@[simp] theorem depth_bool (value : Bool) : depth (.bool value) = 0 := rfl

@[simp] theorem depth_num (value : Int) : depth (.num value) = 0 := rfl

@[simp] theorem depth_str (text : String) : depth (.str text) = 0 := rfl

@[simp] theorem depth_arr (items : List Value) : depth (.arr items) = itemDepth items := rfl

@[simp] theorem depth_obj (members : List (String × Value)) : depth (.obj members) = memberDepths members := rfl

@[simp] theorem memberDepths_nil : memberDepths [] = 0 := rfl

@[simp] theorem memberDepths_cons (key : String) (value : Value) (members : List (String × Value)) :
    memberDepths ((key, value) :: members) = max (depth value + 1) (memberDepths members) := rfl

theorem itemDepth_le {items : List Value} {levels : Nat} (each : ∀ item ∈ items, depth item + 1 ≤ levels) :
    itemDepth items ≤ levels := by
  induction items with
  | nil => exact zero_le
  | cons item items ih =>
    have first := each item mem_cons_self
    have rest := ih (fun other member => each other (mem_cons_of_mem item member))
    exact Nat.max_le.mpr ⟨first, rest⟩

theorem memberDepths_append (first second : List (String × Value)) :
    memberDepths (first ++ second) = max (memberDepths first) (memberDepths second) := by
  induction first with
  | nil => simp [memberDepths]
  | cons member members ih => rw [cons_append, memberDepths, ih, memberDepths, Nat.max_assoc]

theorem escape_of_plain {char : Char} (isPlain : plain char = true) : escape char = [char] := by
  simp only [plain, and_eq_true, decide_eq_true_eq, bne_iff_ne] at isPlain
  obtain ⟨⟨⟨low, high⟩, noQuote⟩, noSlash⟩ := isPlain
  simp only [escape]
  repeat rw [if_neg (by omega)]

theorem utf8Size_of_plain {char : Char} (isPlain : plain char = true) : char.utf8Size = 1 := by
  simp only [plain, and_eq_true, decide_eq_true_eq] at isPlain
  apply Char.utf8Size_eq_one_iff.mpr
  have high : char.toNat < 127 := isPlain.1.1.2
  exact UInt32.le_iff_toNat_le.mpr (Nat.le_of_lt high)

theorem byteLength_escaped {text : List Char} (isPlain : text.all plain = true) :
    byteLength (text.flatMap escape) = text.length := by
  induction text with
  | nil => rfl
  | cons char rest ih =>
    simp only [all_cons, and_eq_true] at isPlain
    simp only [flatMap_cons, escape_of_plain isPlain.1, byteLength_append, byteLength_cons,
      utf8Size_of_plain isPlain.1, byteLength_nil, ih isPlain.2, length_cons]
    omega

theorem byteLength_quote {text : String} (isPlain : text.toList.all plain = true) :
    byteLength (quote text) = text.length + 2 := by
  have quoteSize : Char.utf8Size '\"' = 1 := by decide
  simp only [quote, byteLength_cons, byteLength_append, byteLength_escaped isPlain, byteLength_nil,
    String.length_toList]
  omega

theorem byteLength_joined (texts : List (List Char)) (isSome : texts ≠ []) :
    byteLength (joined texts) + 1 = (texts.map (fun text => byteLength text + 1)).sum := by
  fun_induction joined texts with
  | case1 => exact absurd rfl isSome
  | case2 text => simp
  | case3 text rest more ih =>
    have commaSize : Char.utf8Size ',' = 1 := by decide
    have tail := ih more
    simp only [byteLength_append, byteLength_cons, map_cons, sum_cons] at tail ⊢
    omega

theorem stringifyItems_eq_map (items : List Value) : stringifyItems items = items.map stringify := by
  induction items with
  | nil => rfl
  | cons item items ih => rw [stringifyItems, ih, map_cons]

theorem stringifyMembers_eq_map (members : List (String × Value)) :
    stringifyMembers members = members.map stringifyMember := by
  induction members with
  | nil => rfl
  | cons member members ih => rw [stringifyMembers, ih, map_cons]

def memberSize (member : String × Value) : Nat := byteLength (quote member.1) + size member.2 + 2

theorem size_obj {members : List (String × Value)} (isSome : members ≠ []) :
    size (.obj members) = 1 + (members.map memberSize).sum := by
  have braces : Char.utf8Size '\x7b' = 1 ∧ Char.utf8Size '\x7d' = 1 ∧ Char.utf8Size ':' = 1 := by decide
  have inner := byteLength_joined (stringifyMembers members) (by
    rw [stringifyMembers_eq_map]
    simpa using isSome)
  have each : (members.map stringifyMember).map (fun text => byteLength text + 1) = members.map memberSize := by
    rw [map_map]
    refine map_congr_left (fun member _ => ?_)
    obtain ⟨key, value⟩ := member
    simp only [Function.comp_apply, stringifyMember, memberSize, size, byteLength_append, byteLength_cons]
    omega
  rw [stringifyMembers_eq_map, each] at inner
  simp only [size, stringify, byteLength_cons, byteLength_append, byteLength_nil, stringifyMembers_eq_map]
  omega

theorem size_arr {items : List Value} (isSome : items ≠ []) :
    size (.arr items) = 1 + (items.map (fun item => size item + 1)).sum := by
  have brackets : Char.utf8Size '[' = 1 ∧ Char.utf8Size ']' = 1 := by decide
  have inner := byteLength_joined (stringifyItems items) (by
    rw [stringifyItems_eq_map]
    simpa using isSome)
  rw [stringifyItems_eq_map, map_map] at inner
  simp only [size, stringify, byteLength_cons, byteLength_append, byteLength_nil, stringifyItems_eq_map]
  simp only [Function.comp_def] at inner
  omega

theorem plain_of_isDigit {char : Char} (digit : char.isDigit = true) : plain char = true := by
  have ends : '0'.toNat = 48 ∧ '9'.toNat = 57 := by decide
  have range := Char.isDigit_iff_toNat.mp digit
  simp only [plain, and_eq_true, decide_eq_true_eq, bne_iff_ne]
  refine ⟨⟨⟨by omega, by omega⟩, ?_⟩, ?_⟩
  · rintro rfl
    exact absurd range.1 (by decide)
  · rintro rfl
    exact absurd range.2 (by decide)

theorem byteLength_of_plain {text : List Char} (isPlain : text.all plain = true) : byteLength text = text.length := by
  induction text with
  | nil => rfl
  | cons char rest ih =>
    simp only [all_cons, and_eq_true] at isPlain
    rw [byteLength_cons, utf8Size_of_plain isPlain.1, ih isPlain.2, length_cons, Nat.add_comm]

theorem size_num (value : Nat) : size (.num value) = value.repr.length := by
  have digits : value.repr.toList = Nat.toDigits 10 value := by
    rw [Nat.repr_eq_ofList_toDigits, String.toList_ofList]
  have isPlain : value.repr.toList.all plain = true := by
    rw [digits, all_eq_true]
    intro char member
    exact plain_of_isDigit (Nat.isDigit_of_mem_toDigits (by decide) (by decide) member)
  have text : stringify (.num value) = value.repr.toList := rfl
  rw [size, text, byteLength_of_plain isPlain, String.length_toList]

theorem size_num_le {value digits : Nat} (some_digit : 0 < digits) (small : value < 10 ^ digits) :
    size (.num value) ≤ digits := by
  rw [size_num]
  exact Nat.repr_length value digits some_digit small

theorem size_str {text : String} (isPlain : text.toList.all plain = true) : size (.str text) = text.length + 2 :=
  byteLength_quote isPlain

theorem stringify_ne_nil (value : Value) : stringify value ≠ [] := by
  cases value with
  | null => decide
  | bool value => cases value <;> decide
  | num value =>
    simp only [stringify]
    cases value with
    | ofNat value | negSucc value => simp [Int.repr]
  | str text | arr items | obj members => exact cons_ne_nil _ _

theorem size_pos (value : Value) : 0 < size value :=
  Nat.lt_of_lt_of_le (length_pos_iff.mpr (stringify_ne_nil value)) (length_le_byteLength _)

mutual
theorem tokens_le_size : ∀ value : Value, tokens value ≤ size value
  | .null => by decide
  | .bool true => by decide
  | .bool false => by decide
  | .num value => size_pos (.num value)
  | .str text => size_pos (.str text)
  | .arr [] => by decide
  | .arr (item :: items) => by
    have each := itemTokens_le (item :: items)
    rw [size_arr (cons_ne_nil item items), tokens]
    omega
  | .obj [] => by decide
  | .obj (member :: members) => by
    have each := memberTokens_le (member :: members)
    rw [size_obj (cons_ne_nil member members), tokens]
    omega

theorem itemTokens_le : ∀ items : List Value, itemTokens items ≤ (items.map (fun item => size item + 1)).sum
  | [] => Nat.le_refl 0
  | item :: items => by
    have first := tokens_le_size item
    have rest := itemTokens_le items
    simp only [itemTokens, map_cons, sum_cons]
    omega

theorem memberTokens_le : ∀ members : List (String × Value), memberTokens members ≤ (members.map memberSize).sum
  | [] => Nat.le_refl 0
  | member :: members => by
    have first := memberToken_le member
    have rest := memberTokens_le members
    simp only [memberTokens, map_cons, sum_cons]
    omega

theorem memberToken_le : ∀ member : String × Value, memberToken member ≤ memberSize member
  | (key, value) => by
    have inner := tokens_le_size value
    simp only [memberToken, memberSize]
    omega
end

end Cove.Base.Json
