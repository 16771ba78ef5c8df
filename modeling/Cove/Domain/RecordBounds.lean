import Cove.Protocol.Workspace

/-!
The read protocol's limits on a task record. A write refuses a workspace whose record, at the largest it is taken to
become, would not fit one response.
-/

namespace Cove.Domain.RecordBounds
open Base.Json Protocol.Identity Protocol.Workspace

def structureTokens : Nat := 4096

structure JsonSize where
  bytes : Nat
  tokens : Nat

def recordReserve : JsonSize := ⟨2048, 32⟩

def jsonSize (value : Value) : JsonSize := ⟨size value, tokens value⟩

def longestId : String := String.ofList (List.replicate 40 'i')

def longestTitle : String := String.ofList (List.replicate m1Limits.titleChars '\x01')

/-- The largest the record is taken to become without another change of its mounts. -/
def worstCase (record : TaskRecord) : TaskRecord :=
  { record with
    revision := maxSafeInteger
    title := longestTitle
    workspace := { record.workspace with
      revision := maxSafeInteger
      entryState := .unavailable
      mounts := record.workspace.mounts.map (fun mount =>
        { mount with
          state := .unavailable
          sharedWithTaskIds :=
            if mount.source = .checkout then List.replicate m1Limits.sharedTasks longestId
            else mount.sharedWithTaskIds }) } }

/-- Every read of the record is taken to fit one response, with the reserve to spare. -/
def taskRecordFits (record : TaskRecord) (responseBytes : Nat) : Bool :=
  let size := jsonSize (.obj [("task", (worstCase record).json)])
  decide (size.bytes + recordReserve.bytes ≤ responseBytes) &&
    decide (size.tokens + recordReserve.tokens ≤ structureTokens)

end Cove.Domain.RecordBounds
