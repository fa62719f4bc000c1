/-!
# Log — records and their levels

A record says which part of the library speaks, how grave the matter is,
and what happened. Levels are ordered by gravity.
-/

namespace WebPush.Log

/-- How grave a record is. -/
inductive Level where
  | debug
  | info
  | warning
  | error
  | critical
deriving DecidableEq, Repr

namespace Level

/-- The name of a level. -/
def name : Level → String
  | debug => "DEBUG"
  | info => "INFO"
  | warning => "WARNING"
  | error => "ERROR"
  | critical => "CRITICAL"

/-- The rank of a level among all. -/
def rank : Level → Nat
  | debug => 10
  | info => 20
  | warning => 30
  | error => 40
  | critical => 50

/-- All levels, the least grave first. -/
def all : List Level := [debug, info, warning, error, critical]

/-- The level of a name. -/
def ofName? (name : String) : Option Level := all.find? fun level => level.name = name

theorem ofName?_name (level : Level) : ofName? level.name = some level := by
  cases level <;> decide +kernel

theorem name_of_ofName? {name : String} {level : Level} (h : ofName? name = some level) :
    level.name = name := by
  have hfound := List.find?_some h
  exact of_decide_eq_true hfound

end Level

/-- One thing that happened. -/
structure Record where
  source : String
  level : Level
  message : String
deriving DecidableEq, Repr

/-- A truth value as records show it. -/
def showBool (b : Bool) : String := if b then "True" else "False"

end WebPush.Log
