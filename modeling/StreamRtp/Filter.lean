/-!
# The receive filter

Incoming frames are accepted or rejected by where they come from. Two lists are kept side by side,
and the mode says which of them is consulted. Changing the mode leaves the lists alone, so an entry
made under one mode decides again when its mode comes back.
-/

namespace StreamRtp

/-- Which list, if any, decides. -/
inductive ReceiveMode where
  /-- Every source is accepted. -/
  | acceptAll
  /-- Every source is accepted but those on the ignore list. -/
  | rejectIgnoreListed
  /-- Only the sources on the accept list are accepted. -/
  | acceptListedOnly
  deriving DecidableEq, Repr

namespace ReceiveMode

instance : Inhabited ReceiveMode := ⟨acceptAll⟩

/-- The name of a mode. -/
def name : ReceiveMode → String
  | acceptAll => "AcceptAll"
  | rejectIgnoreListed => "RejectIgnoreListed"
  | acceptListedOnly => "AcceptListedOnly"

end ReceiveMode

/-- The answer of the filter. -/
inductive Verdict where
  | accept
  | reject
  deriving DecidableEq, Repr

/-- The mode and the two lists. Neither list holds a source twice. -/
structure ReceiveFilter (κ : Type) where
  mode : ReceiveMode
  ignored : List κ
  accepted : List κ

namespace ReceiveFilter

variable {κ : Type}

/-- A filter with empty lists. -/
def ofMode (mode : ReceiveMode) : ReceiveFilter κ := ⟨mode, [], []⟩

/-- Select the list that decides. -/
def setMode (f : ReceiveFilter κ) (mode : ReceiveMode) : ReceiveFilter κ := { f with mode }

variable [DecidableEq κ]

/-- Whether frames of a source are accepted. -/
def decision (f : ReceiveFilter κ) (source : κ) : Verdict :=
  let accepted : Bool :=
    match f.mode with
    | .acceptAll => true
    | .rejectIgnoreListed => source ∉ f.ignored
    | .acceptListedOnly => source ∈ f.accepted
  if accepted then .accept else .reject

/-! ## Maintenance of the lists

Adding says whether the source is new on the list, deleting whether it was there. -/

/-- Put a source on the ignore list. -/
def ignore (f : ReceiveFilter κ) (source : κ) : Bool × ReceiveFilter κ :=
  if source ∈ f.ignored then (false, f) else (true, { f with ignored := source :: f.ignored })

/-- Take a source off the ignore list. -/
def unignore (f : ReceiveFilter κ) (source : κ) : Bool × ReceiveFilter κ :=
  if source ∈ f.ignored then (true, { f with ignored := f.ignored.erase source }) else (false, f)

/-- Empty the ignore list. -/
def clearIgnored (f : ReceiveFilter κ) : ReceiveFilter κ := { f with ignored := [] }

/-- Put a source on the accept list. -/
def allow (f : ReceiveFilter κ) (source : κ) : Bool × ReceiveFilter κ :=
  if source ∈ f.accepted then (false, f) else (true, { f with accepted := source :: f.accepted })

/-- Take a source off the accept list. -/
def disallow (f : ReceiveFilter κ) (source : κ) : Bool × ReceiveFilter κ :=
  if source ∈ f.accepted then (true, { f with accepted := f.accepted.erase source })
  else (false, f)

/-- Empty the accept list. -/
def clearAccepted (f : ReceiveFilter κ) : ReceiveFilter κ := { f with accepted := [] }

end ReceiveFilter

end StreamRtp
