/-! A message broker holding plain texts and streams under keys, with consumer groups that
remember what they delivered and what is still unacknowledged. -/
namespace MessageTemplate.Broker

/-- An entry id: a time in milliseconds and a sequence number within it. -/
structure EntryId where
  ms : Nat
  seq : Nat
deriving DecidableEq, Repr, Inhabited

namespace EntryId

/-- The id written as `ms-seq`. -/
def text (i : EntryId) : String := toString i.ms ++ "-" ++ toString i.seq

/-- Whether one id comes before another: by time, then by sequence number. -/
def before (a b : EntryId) : Bool := a.ms < b.ms || (a.ms = b.ms && a.seq < b.seq)

/-- The id the broker gives the entry after one with this id. -/
def next (i : EntryId) : EntryId := ⟨i.ms, i.seq + 1⟩

/-- The id below every entry. -/
def zero : EntryId := ⟨0, 0⟩

end EntryId

/-- A stream entry: its id and its fields. -/
structure Entry where
  id : EntryId
  fields : List (String × String)
deriving DecidableEq, Repr

/-- The value of a field of an entry; of a field written twice, the later one. -/
def Entry.field? (e : Entry) (name : String) : Option String := e.fields.reverse.lookup name

/-- A consumer group: its name, the last entry it delivered, and the ids of the entries it
delivered that are not yet acknowledged. -/
structure Group where
  name : String
  lastDelivered : EntryId
  pending : List EntryId
deriving DecidableEq, Repr

/-- A stream: its entries, the id of the last entry ever added, and its groups. -/
structure Stream where
  entries : List Entry
  lastId : EntryId
  groups : List Group
deriving DecidableEq, Repr

/-- The stream a key holds before anything is added to it. -/
def Stream.empty : Stream := ⟨[], .zero, []⟩

/-- What a key holds. -/
inductive Slot where
  | text (s : String)
  | stream (s : Stream)
deriving DecidableEq, Repr

/-- Why a broker command failed. -/
inductive Fault where
  | wrongType
  | noGroup (key group : String)
  | busyGroup
  | idNotAbove
  | noStream
  | wrongArity (command : String)
  | injected (message : String)
deriving DecidableEq, Repr

/-- The broker's reply text for a failure. -/
def Fault.message : Fault → String
  | .wrongType => "WRONGTYPE Operation against a key holding the wrong kind of value"
  | .noGroup k g => "NOGROUP No such key '" ++ k ++ "' or consumer group '" ++ g ++ "'"
  | .busyGroup => "BUSYGROUP Consumer Group name already exists"
  | .idNotAbove => "ERR The ID specified in XADD is equal or smaller than the target stream top item"
  | .noStream =>
    "ERR The XGROUP subcommand requires the key to exist. Note that for CREATE you may want " ++
      "to use the MKSTREAM option to create an empty stream automatically."
  | .wrongArity c => "ERR wrong number of arguments for '" ++ c ++ "' command"
  | .injected m => m

/-- The broker: what each key holds, in the order the keys were first set, and the injected
failure, if any. -/
structure Store where
  slots : List (String × Slot) := []
  failure : Option String := none
deriving DecidableEq, Repr

namespace Store

def empty : Store := {}

def guard (s : Store) : Except Fault Unit :=
  match s.failure with
  | some m => .error (.injected m)
  | none => .ok ()

/-- What a key holds. -/
def find? (s : Store) (key : String) : Option Slot := s.slots.lookup key

def put (s : Store) (key : String) (slot : Slot) : Store :=
  if s.slots.any (·.1 = key) then
    { s with slots := s.slots.map fun kv => if kv.1 = key then (key, slot) else kv }
  else { s with slots := s.slots ++ [(key, slot)] }

def failWith (s : Store) (failure : Option String) : Store := { s with failure := failure }

def ping (s : Store) : Except Fault Unit := s.guard

def setText (s : Store) (key value : String) : Except Fault Store := do
  s.guard
  pure (s.put key (.text value))

def stream? (s : Store) (key : String) : Except Fault (Option Stream) := do
  s.guard
  match s.find? key with
  | none => pure none
  | some (.text _) => throw .wrongType
  | some (.stream st) => pure (some st)

/-- Add an entry to a stream, created when the key is free. The entry needs a field, and an
explicit id must be above the stream's last id; without one the entry gets the id after it. -/
def add (s : Store) (key : String) (id : Option EntryId) (fields : List (String × String)) :
    Except Fault (EntryId × Store) := do
  s.guard
  if fields.isEmpty then throw (.wrongArity "xadd")
  let st := (← s.stream? key).getD .empty
  let newId := id.getD st.lastId.next
  if !st.lastId.before newId then throw .idNotAbove
  let grown : Stream := { st with entries := st.entries ++ [⟨newId, fields⟩], lastId := newId }
  pure (newId, s.put key (.stream grown))

def createGroup (s : Store) (key group : String) : Except Fault Store := do
  let st := (← s.stream? key).getD .empty
  if st.groups.any (·.name = group) then throw .busyGroup
  pure (s.put key (.stream { st with groups := st.groups ++ [⟨group, .zero, []⟩] }))

def destroyGroup (s : Store) (key group : String) : Except Fault (Bool × Store) := do
  match ← s.stream? key with
  | none => throw .noStream
  | some st =>
    pure (st.groups.any (·.name = group),
      s.put key (.stream { st with groups := st.groups.filter (·.name != group) }))

/-- The group of a stream, failing when the stream or the group does not exist. -/
def group (s : Store) (key group : String) : Except Fault (Stream × Group) := do
  match ← s.stream? key with
  | none => throw (.noGroup key group)
  | some st =>
    match st.groups.find? (·.name = group) with
    | none => throw (.noGroup key group)
    | some g => pure (st, g)

def readGroup (s : Store) (key group : String) : Except Fault (Option Entry × Store) := do
  let (st, g) ← s.group key group
  match st.entries.find? (g.lastDelivered.before ·.id) with
  | none => pure (none, s)
  | some e =>
    let groups := st.groups.map fun h =>
      if h.name = group then { h with lastDelivered := e.id, pending := h.pending ++ [e.id] } else h
    pure (some e, s.put key (.stream { st with groups := groups }))

def ack (s : Store) (key group : String) (id : EntryId) : Except Fault (Nat × Store) := do
  let (st, g) ← s.group key group
  let settled := (g.pending.filter (· = id)).length
  let groups := st.groups.map fun h =>
    if h.name = group then { h with pending := h.pending.filter (· != id) } else h
  pure (settled, s.put key (.stream { st with groups := groups }))

def pendingCount (s : Store) (key group : String) : Except Fault Nat := do
  let (_, g) ← s.group key group
  pure g.pending.length

/-- The entries of a stream, none for a free key. -/
def entries (s : Store) (key : String) : Except Fault (List Entry) := do
  pure (((← s.stream? key).map (·.entries)).getD [])

/-- The number of entries a key's stream holds, zero when it holds none. -/
def length (s : Store) (key : String) : Nat :=
  match s.find? key with
  | some (.stream st) => st.entries.length
  | _ => 0

end Store

/-- A broker as a worker uses it while it handles a message, over whatever state `σ` the broker
keeps: adding an entry to a stream, and acknowledging an entry delivered to a group. Every
command answers and leaves the broker in some state, also when it fails. -/
structure Client (σ : Type) where
  add : σ → String → List (String × String) → Except Fault EntryId × σ
  ack : σ → String → String → EntryId → Except Fault Nat × σ

def Store.client : Client Store where
  add s key fields :=
    match s.add key none fields with
    | .ok r => (.ok r.1, r.2)
    | .error f => (.error f, s)
  ack s key group id :=
    match s.ack key group id with
    | .ok r => (.ok r.1, r.2)
    | .error f => (.error f, s)

end MessageTemplate.Broker
