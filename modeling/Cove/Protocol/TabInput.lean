import Cove.Base.Utf16

/-!
Receipts of programmatic input. A receipt counts the confirmed prefix of each part of a request; the rest of the
part is either unknown or was not sent.
-/

namespace Cove.Protocol.TabInput
open Base.Utf16 Bool Option

def tabSendTextBytes : Nat := 4096
def tabSendPendingPerRun : Nat := 32

inductive PartStatus where
  | written
  | notSent
  | partly
  | unknown
  deriving DecidableEq

structure InputPartReceipt where
  status : PartStatus
  requestedBytes : Nat
  writtenBytes : Nat
  unknownBytes : Nat
  reason : Option String
  deriving DecidableEq

def inputPartReceipt (requestedBytes writtenBytes unknownBytes : Nat) (reason : String) : InputPartReceipt where
  status :=
    if unknownBytes > 0 then .unknown
    else if writtenBytes = requestedBytes then .written
    else if writtenBytes > 0 then .partly
    else .notSent
  requestedBytes := requestedBytes
  writtenBytes := writtenBytes
  unknownBytes := unknownBytes
  reason := if reason = "" then none else some (slice reason 128)

/-- `InputPartReceiptSchema`: the ranges of the fields, and counts that agree with the status. -/
def InputPartReceipt.valid (receipt : InputPartReceipt) : Bool :=
  decide (receipt.requestedBytes ≤ tabSendTextBytes) && decide (receipt.writtenBytes ≤ tabSendTextBytes) &&
    decide (receipt.unknownBytes ≤ tabSendTextBytes) &&
    receipt.reason.all (fun reason => decide (1 ≤ utf16Length reason) && decide (utf16Length reason ≤ 128)) &&
    decide (receipt.writtenBytes + receipt.unknownBytes ≤ receipt.requestedBytes) &&
    (match receipt.status with
      | .written => receipt.writtenBytes == receipt.requestedBytes && receipt.unknownBytes == 0
      | .notSent => receipt.writtenBytes == 0 && receipt.unknownBytes == 0
      | .partly =>
        decide (0 < receipt.writtenBytes) && decide (receipt.writtenBytes < receipt.requestedBytes) &&
          receipt.unknownBytes == 0
      | .unknown => decide (0 < receipt.unknownBytes))

structure TabInputReceipt where
  text : InputPartReceipt
  submit : Option InputPartReceipt
  deriving DecidableEq

variable (receipt : TabInputReceipt)

/-- `TabInputReceiptSchema`: a submit is one byte, and it follows a text that was written. -/
def TabInputReceipt.valid : Bool :=
  receipt.text.valid && receipt.submit.all InputPartReceipt.valid &&
    receipt.submit.all (fun submit =>
      submit.requestedBytes == 1 && (receipt.text.status == .written || submit.status == .notSent ||
        (receipt.text.status == .unknown && submit.status == .unknown)))

variable (textBytes : Nat)

def TabInputReceipt.describes (submit : Bool) : Bool :=
  receipt.text.requestedBytes == textBytes && receipt.submit.isSome == submit

def TabInputReceipt.complete : Bool :=
  receipt.text.status == .written && receipt.submit.all (fun submit => submit.status == .written)

def TabInputReceipt.untouched : Bool :=
  receipt.text.writtenBytes == 0 && receipt.text.unknownBytes == 0 &&
    receipt.submit.all (fun submit => submit.writtenBytes == 0 && submit.unknownBytes == 0)

theorem inputPartReceipt_valid {requestedBytes writtenBytes unknownBytes : Nat} (reason : String)
    (bounded : requestedBytes ≤ tabSendTextBytes) (within : writtenBytes + unknownBytes ≤ requestedBytes) :
    (inputPartReceipt requestedBytes writtenBytes unknownBytes reason).valid = true := by
  have written : writtenBytes ≤ tabSendTextBytes := by omega
  have unknown : unknownBytes ≤ tabSendTextBytes := by omega
  have named : (inputPartReceipt requestedBytes writtenBytes unknownBytes reason).reason.all
      (fun reason => decide (1 ≤ utf16Length reason) && decide (utf16Length reason ≤ 128)) = true := by
    simp only [inputPartReceipt]
    split
    · rfl
    rename_i nonempty
    have some_unit : 1 ≤ utf16Length (slice reason 128) := utf16Length_slice_pos nonempty (by decide)
    simp only [all_some, and_eq_true, decide_eq_true_eq]
    exact ⟨some_unit, utf16Length_slice_le reason 128⟩
  simp only [InputPartReceipt.valid, named, Bool.and_true, and_eq_true, decide_eq_true_eq]
  refine ⟨⟨⟨⟨bounded, written⟩, unknown⟩, within⟩, ?_⟩
  simp only [inputPartReceipt]
  by_cases open_part : unknownBytes > 0
  · simp only [if_pos open_part]
    exact decide_eq_true open_part
  by_cases whole : writtenBytes = requestedBytes
  · simp only [if_neg open_part, if_pos whole, and_eq_true, beq_iff_eq]
    omega
  by_cases some_byte : writtenBytes > 0
  · have less : writtenBytes < requestedBytes := by omega
    have known : unknownBytes = 0 := by omega
    simp only [if_neg whole]
    simp [some_byte, less, known]
  · simp only [if_neg open_part, if_neg whole, if_neg some_byte, and_eq_true, beq_iff_eq]
    omega

def notSent (submit : Bool) (reason : String) (unknown : Bool) : TabInputReceipt where
  text := inputPartReceipt textBytes 0 (if unknown then textBytes else 0) reason
  submit := if submit then some (inputPartReceipt 1 0 (if unknown then 1 else 0) reason) else none

theorem notSent_valid {textBytes : Nat} (bounded : textBytes ≤ tabSendTextBytes) (submit : Bool) (reason : String)
    (unknown : Bool) : (notSent textBytes submit reason unknown).valid = true := by
  have text : (inputPartReceipt textBytes 0 (if unknown then textBytes else 0) reason).valid = true := by
    apply inputPartReceipt_valid reason bounded
    split <;> omega
  have part : (inputPartReceipt 1 0 (if unknown then 1 else 0) reason).valid = true := by
    apply inputPartReceipt_valid reason (by decide)
    split <;> omega
  cases submit with
  | false => simp only [notSent, TabInputReceipt.valid, text, false_eq_true, if_false, all_none, Bool.and_self]
  | true =>
    simp only [notSent, TabInputReceipt.valid, text, if_true, all_some, part]
    cases unknown with
    | false => simp [inputPartReceipt]
    | true =>
      by_cases empty : textBytes = 0
      · simp [inputPartReceipt, empty]
      · simp [inputPartReceipt, Nat.pos_of_ne_zero empty]

theorem notSent_describes (submit : Bool) (reason : String) (unknown : Bool) :
    (notSent textBytes submit reason unknown).describes textBytes submit = true := by
  cases submit <;> simp [notSent, TabInputReceipt.describes, inputPartReceipt]

theorem notSent_untouched (submit : Bool) (reason : String) :
    (notSent textBytes submit reason false).untouched = true := by
  cases submit <;> simp [notSent, TabInputReceipt.untouched, inputPartReceipt]

end Cove.Protocol.TabInput
