import Mathlib.Data.List.Basic

/-!
The wire vocabulary of business records: their kinds, the filters and cursors of a subscriber, the
changes of a committed transaction and the frames that carry them.
-/

namespace Cove.Protocol.Business

inductive BusinessKind where
  | repo
  | task
  | tab
  | run
  | operation
  | config
  | runtime
  deriving DecidableEq

def BusinessKind.name : BusinessKind → String
  | .repo => "repo"
  | .task => "task"
  | .tab => "tab"
  | .run => "run"
  | .operation => "operation"
  | .config => "config"
  | .runtime => "runtime"

def businessKinds : List BusinessKind := [.repo, .task, .tab, .run, .operation, .config, .runtime]

structure BusinessFilter where
  kinds : Option (List BusinessKind)

def normalizedBusinessKinds (filter : BusinessFilter) : List BusinessKind :=
  businessKinds.filter (fun kind =>
    match filter.kinds with
    | none => true
    | some kinds => kinds.contains kind)

def businessFilterIdentity (filter : BusinessFilter) : String :=
  ",".intercalate ((normalizedBusinessKinds filter).map BusinessKind.name)

structure BusinessCursor where
  serverId : String
  relayInstanceId : String
  streamId : String
  sequence : Nat
  filter : String

def BusinessCursor.at (cursor : BusinessCursor) (sequence : Nat) : BusinessCursor :=
  { cursor with sequence := sequence }

@[simp] theorem BusinessCursor.at_at (cursor : BusinessCursor) (first second : Nat) :
    (cursor.at first).at second = cursor.at second := rfl

structure BusinessRecord (ρ : Type) where
  kind : BusinessKind
  id : String
  record : ρ

inductive BusinessChange (ρ : Type) where
  | upsert (value : BusinessRecord ρ)
  | delete (kind : BusinessKind) (id : String)

def BusinessChange.kind {ρ : Type} : BusinessChange ρ → BusinessKind
  | .upsert value => value.kind
  | .delete kind _ => kind

inductive BusinessResetReason where
  | identity
  | generation
  | filter
  | gap
  | overflow
  | publicationUncertain
  | unavailable

structure BusinessLimits where
  frameBytes : Nat
  windowBytes : Nat
  windowItems : Nat
  journalItems : Nat
  snapshotBytes : Nat
  snapshotItems : Nat
  subscriptions : Nat

def businessLimits : BusinessLimits where
  frameBytes := 256 * 1024
  windowBytes := 8 * 1024 * 1024
  windowItems := 4096
  journalItems := 4096
  snapshotBytes := 16 * 1024 * 1024
  snapshotItems := 65536
  subscriptions := 32

end Cove.Protocol.Business
