/-!
# Journals

Operations report what they do in a journal of records, which a reader can filter
by level. `Journaled` is a computation that may fail and that keeps the records
made before the failure.
-/

namespace BrowserFlow

/-- How much a record matters. -/
inductive Level where
  | debug
  | info
  | warning
  | error
deriving DecidableEq, Repr

namespace Level

def rank : Level → Nat
  | debug => 10
  | info => 20
  | warning => 30
  | error => 40

def name : Level → String
  | debug => "DEBUG"
  | info => "INFO"
  | warning => "WARNING"
  | error => "ERROR"

def all : List Level := [debug, info, warning, error]

def ofName? (name : String) : Option Level := all.find? fun level => level.name = name

end Level

/-- The part of the program that makes a record. -/
inductive Channel where
  | checking
  | importing
  | ordering
  | fragments
  | compiling
  | session
  | listeners
  | registry
  | broadcast
  | storage
  | settings
deriving DecidableEq, Repr

def Channel.name : Channel → String
  | checking => "flowscript.compiler.schema"
  | importing => "flowscript.compiler.serializer"
  | ordering => "flowscript.compiler.linearizer"
  | fragments => "flowscript.compiler.templates"
  | compiling => "flowscript.compiler"
  | session => "flowscript.editor.session"
  | listeners => "flowscript.editor.events"
  | registry => "flowscript.server.state"
  | broadcast => "flowscript.server.events.socket_server"
  | storage => "flowscript.server.collaborators"
  | settings => "flowscript.server.config"

/-- One line of a journal. -/
structure Record where
  level : Level
  channel : Channel
  text : String
deriving DecidableEq, Repr

namespace Record

def atLeast (level : Level) (records : List Record) : List Record :=
  records.filter fun record => level.rank ≤ record.level.rank

def line (record : Record) : String :=
  s!"{record.level.name} {record.channel.name}: {record.text}"

end Record

/-- A computation with its records and its outcome. -/
structure Journaled (ε α : Type) where
  records : List Record
  result : Except ε α

namespace Journaled

variable {ε ε' α β : Type}

/-- Runs `next` on the value, after the records of `x`; a failure stays. -/
def andThen (x : Journaled ε α) (next : α → Journaled ε β) : Journaled ε β :=
  match x.result with
  | .error e => ⟨x.records, .error e⟩
  | .ok a => ⟨x.records ++ (next a).records, (next a).result⟩

instance : Monad (Journaled ε) where
  pure a := ⟨[], .ok a⟩
  bind := andThen

def fail (e : ε) : Journaled ε α := ⟨[], .error e⟩

def note (level : Level) (channel : Channel) (text : String) : Journaled ε Unit :=
  ⟨[⟨level, channel, text⟩], .ok ()⟩

def noteAll (records : List Record) : Journaled ε Unit := ⟨records, .ok ()⟩

def lift (x : Except ε α) : Journaled ε α := ⟨[], x⟩

def require (p : Prop) [Decidable p] (e : ε) : Journaled ε Unit := if p then pure () else fail e

def mapError (f : ε → ε') (x : Journaled ε α) : Journaled ε' α := ⟨x.records, x.result.mapError f⟩

@[simp] theorem result_pure (a : α) : (pure a : Journaled ε α).result = .ok a := rfl

@[simp] theorem records_pure (a : α) : (pure a : Journaled ε α).records = [] := rfl

@[simp] theorem result_bind (x : Journaled ε α) (next : α → Journaled ε β) :
    (x >>= next).result = x.result.bind fun a => (next a).result := by
  show (andThen x next).result = _
  unfold andThen
  cases x.result <;> rfl

@[simp] theorem result_fail (e : ε) : (fail e : Journaled ε α).result = .error e := rfl

@[simp] theorem result_note (level : Level) (channel : Channel) (text : String) :
    (note level channel text : Journaled ε Unit).result = .ok () := rfl

@[simp] theorem result_noteAll (records : List Record) :
    (noteAll records : Journaled ε Unit).result = .ok () := rfl

@[simp] theorem result_lift (x : Except ε α) : (lift x).result = x := rfl

@[simp] theorem records_lift (x : Except ε α) : (lift x).records = [] := rfl

theorem mapError_ok (f : ε → ε') (a : α) : (Except.ok a : Except ε α).mapError f = .ok a := rfl

theorem mapError_error (f : ε → ε') (e : ε) :
    (Except.error e : Except ε α).mapError f = .error (f e) := rfl

@[simp] theorem result_mapError (f : ε → ε') (x : Journaled ε α) :
    (x.mapError f).result = x.result.mapError f := rfl

@[simp] theorem records_mapError (f : ε → ε') (x : Journaled ε α) :
    (x.mapError f).records = x.records := rfl

end Journaled

end BrowserFlow
