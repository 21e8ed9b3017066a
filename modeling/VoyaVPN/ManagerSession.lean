import VoyaVPN.ActionRules
import VoyaVPN.VoyaStore

/-! What a manager works on: the transaction and the working copy of the configuration of one
mutation, and the clock and counters its new ids are made of. -/
namespace ManagerSession

open Entities AppConfig ConfigMutation VoyaStore ActionRules

/-- What the making of one id reads. -/
structure IdReading where
  nanos : Nat
  counter : Nat
  pid : Nat
  deriving DecidableEq, Repr

structure Session where
  database : Store
  config : Config
  readings : Nat → IdReading
  drawn : Nat := 0

namespace Session

def setDatabase (session : Session) (database : Store) : Session := { session with database }

def setActiveProfile (session : Session) (indexId : String) : Session :=
  { session with config := { session.config with indexId } }

def setActiveSubscription (session : Session) (subIndexId : String) : Session :=
  { session with config := { session.config with subIndexId } }

def setActiveRouting (session : Session) (id : String) : Session :=
  { session with
    config :=
      { session.config with
        routingBasicItem := { session.config.routingBasicItem with routingIndexId := id } } }

end Session

def hexDigit (value : Nat) : Char := Nat.digitChar (value % 16)

/-- `{:032x}` of a 128-bit number. -/
def hex32 (value : Nat) : String :=
  String.ofList ((List.range 32).map fun place => hexDigit (value / 16 ^ (31 - place)))

def idText (reading : IdReading) : String :=
  hex32 (reading.nanos ^^^ (reading.counter <<< 64) ^^^ reading.pid)

def millisText (tag : String) (reading : IdReading) : String :=
  tag ++ "-" ++ toString (min (reading.nanos / 10 ^ 6) (2 ^ 64 - 1)) ++ "-" ++
    toString reading.counter

section Actions

variable {ε : Type}

def draw (text : IdReading → String) : Action Session ε String := do
  let session ← get
  set { session with drawn := session.drawn + 1 }
  return text (session.readings session.drawn)

def generateProfileId : Action Session ε String := draw idText

def generateSubscriptionId : Action Session ε String := draw fun reading => "sub-" ++ idText reading

def generateRoutingId : Action Session ε String := draw (millisText "routing")

def generateRuleId : Action Session ε String := draw (millisText "rule")

/-- The id an item comes with, or a new one for an item without. -/
def idOrNew (isBlank : Bool) (id : String) (generate : Action Session ε String) :
    Action Session ε String :=
  if isBlank then generate else pure id

/-- A reading statement. -/
def query {α : Type} (read : Store → α) : Action Session ε α := do
  let session ← get
  return read session.database

/-- A writing statement that cannot fail. -/
def execute (write : Store → Store) : Action Session ε PUnit :=
  modify fun session => session.setDatabase (write session.database)

end Actions

def tryExecute (write : Store → Except DbError Store) : Action Session DbError PUnit := do
  let session ← get
  match write session.database with
  | .ok database => set (session.setDatabase database)
  | .error error => throw error

theorem digitChar_not_whitespace {value : Nat} (hvalue : value < 16) :
    RustText.isWhitespace (Nat.digitChar value) = false := by
  interval_cases value <;> decide

theorem trim_of_first_last {text : String} {first last : Char} {middle : List Char}
    (htext : text.toList = first :: (middle ++ [last]))
    (hfirst : RustText.isWhitespace first = false) (hlast : RustText.isWhitespace last = false) :
    RustText.trim text = text := by
  have hdrop : text.toList.dropWhile RustText.isWhitespace = text.toList := by
    rw [htext, List.dropWhile_cons_of_neg (by simp [hfirst])]
  have hrdrop : text.toList.rdropWhile RustText.isWhitespace = text.toList := by
    rw [htext, ← List.cons_append, List.rdropWhile_concat_neg _ _ _ (by simp [hlast])]
  rw [RustText.trim, hdrop, hrdrop, String.ofList_toList]

theorem hexDigit_not_whitespace (value : Nat) :
    RustText.isWhitespace (hexDigit value) = false :=
  digitChar_not_whitespace (Nat.mod_lt _ (by omega))

theorem trim_hex32 (value : Nat) : RustText.trim (hex32 value) = hex32 value := by
  have htext : (hex32 value).toList =
      hexDigit (value / 16 ^ 31) ::
        ((List.range 30).map (fun place => hexDigit (value / 16 ^ (30 - place))) ++
          [hexDigit value]) := by
    simp [hex32, List.range_succ]
  exact trim_of_first_last htext (hexDigit_not_whitespace _) (hexDigit_not_whitespace _)

theorem hex32_ne_empty (value : Nat) : hex32 value ≠ "" := by
  intro hempty
  have hlength := congrArg (fun text => text.toList.length) hempty
  simp [hex32] at hlength

theorem idText_trim (reading : IdReading) : RustText.trim (idText reading) = idText reading :=
  trim_hex32 _

theorem idText_ne_empty (reading : IdReading) : idText reading ≠ "" :=
  hex32_ne_empty _

end ManagerSession
