import StreamRtp.Io.OsError

/-!
# Input and output errors

An I/O error is either a numbered error of the operating system, a bare kind, or a kind with a
message of its own. Kind, code and text are all visible to callers: the kind decides whether a
failed read only means "not yet", the code and the text end up in reports.
-/

namespace StreamRtp

/-- A failed input or output operation. -/
inductive IoError where
  /-- A numbered error of the operating system. -/
  | os (code : Int)
  /-- A kind with nothing else to say. -/
  | bare (kind : IoKind)
  /-- A kind with a message of its own. -/
  | described (kind : IoKind) (message : String)
  deriving DecidableEq, Repr

namespace IoError

/-- What the error is about. -/
def kind : IoError → IoKind
  | os code => OsError.kind code
  | bare kind => kind
  | described kind _ => kind

/-- The number of the error, if the operating system gave it one. -/
def code? : IoError → Option Int
  | os code => some code
  | _ => none

/-- The text of the error. A numbered error shows its number. -/
def message : IoError → String
  | os code => OsError.description code ++ " (os error " ++ toString code ++ ")"
  | bare kind => kind.description
  | described _ message => message

/-- A second report of the same failure: it keeps the number if there is one, and otherwise the
kind and the text. -/
def duplicate (e : IoError) : IoError :=
  match e.code? with
  | some code => os code
  | none => described e.kind e.message

/-- Whether a failed read only says that nothing can be read at the moment. -/
def isTransient (e : IoError) : Bool :=
  e.kind = .wouldBlock || e.kind = .interrupted

@[simp] theorem kind_duplicate (e : IoError) : e.duplicate.kind = e.kind := by
  cases e <;> rfl

@[simp] theorem code?_duplicate (e : IoError) : e.duplicate.code? = e.code? := by
  cases e <;> rfl

@[simp] theorem message_duplicate (e : IoError) : e.duplicate.message = e.message := by
  cases e <;> rfl

end IoError

end StreamRtp
