import Mathlib.Data.List.AList
import OptionChain.KeyedLoops
import OptionChain.Rounding
import OptionChain.Runs

/-!
# The book managers

`StraddleBookManager` and `TrapBookManager` reconcile their books with the running
deployments: spawn what is wanted and absent, stop what is present and not wanted,
re-spawn a flat book whose settings changed. They differ in the settings that they
read from a row, so one manager is parametrised by these.

A book is told apart by the engine behind it. The engines that were started and not
told to stop are counted per key. A spawn may fail, and a started book may have
restored an open position.
-/

namespace OptionChain.BookManagers

open Runs KeyedLoops

/-- Client, binding and underlying. -/
abbrev Key := String × String × String

/-- The columns of a deployment row that the managers read. A missing or unreadable
number is absent. -/
structure Row where
  clientId : String
  bindingId : String
  underlying : String
  assignedInstrument : String := ""
  lotMultiplier : Option Rat
  expiryMode : String := ""
deriving DecidableEq

/-- `_wanted` of the straddle manager: at least one lot, and zero counts as absent. -/
def straddleLots (row : Row) : Int :=
  match row.lotMultiplier with
  | none => 1
  | some lots => max 1 (Rounding.roundHalfEven (if lots = 0 then 1 else lots))

/-- `_wanted` of the trap manager: an odd number of lots is raised to an even one. -/
def trapLots (row : Row) : Int :=
  match row.lotMultiplier with
  | none => 2
  | some value =>
      let lots := Rounding.roundHalfEven (if value = 0 then 2 else value)
      if lots % 2 ≠ 0 then max 2 (lots + 1) else lots

/-- The characters that `str.strip` removes. -/
def isSpace (c : Char) : Bool :=
  (9 ≤ c.toNat && c.toNat ≤ 13) || (28 ≤ c.toNat && c.toNat ≤ 32) ||
    (0x2000 ≤ c.toNat && c.toNat ≤ 0x200a) ||
    [0x85, 0xa0, 0x1680, 0x2028, 0x2029, 0x202f, 0x205f, 0x3000].contains c.toNat

def strip (text : String) : String :=
  String.ofList (((text.toList.dropWhile isSpace).reverse.dropWhile isSpace).reverse)

/-- The trap manager also compares the expiry mode. -/
def trapSettings (row : Row) : Int × String :=
  (trapLots row, strip (if row.expiryMode = "" then "current" else row.expiryMode))

structure Book (S : Type) where
  engine : Nat
  settings : S
  hasPosition : Bool
deriving DecidableEq

/-- The registered books, and the running engines of each key. -/
structure Manager (S : Type) where
  books : AList (fun _ : Key => Book S) := ∅
  live : Key → List Nat := fun _ => []

/-- An engine that a spawn constructs, and whether it restored an open position. -/
structure NewEngine where
  engine : Nat
  restored : Bool
deriving DecidableEq

section Manager

variable {S : Type} [DecidableEq S] (indices : List String) (settings : Row → S)

/-- The key of a row, if its book is wanted. -/
def rowKey (row : Row) : Option Key :=
  let und := (if row.underlying = "" then row.assignedInstrument else row.underlying).toUpper
  if row.clientId = "" ∨ row.bindingId = "" then none
  else if indices ≠ [] ∧ und ∉ indices then none
  else some (row.clientId, row.bindingId, und)

/-- The wanted books of the rows; a later row of a key replaces an earlier one. -/
def wantedRows (rows : List Row) : AList (fun _ : Key => S) :=
  rows.foldl (fun wanted row =>
    match rowKey indices row with
    | none => wanted
    | some key => wanted.insert key (settings row)) ∅

/-- `_wanted`. A query that raises is caught, and nothing is wanted. -/
def wanted (query : Option (List Row)) : AList (fun _ : Key => S) :=
  match query with
  | none => ∅
  | some rows => wantedRows indices settings rows

namespace Manager

/-- Construct, start and register an engine. A failure is logged. -/
def spawn (manager : Manager S) (key : Key) (settings : S) : Option NewEngine → Manager S
  | none => manager
  | some new =>
      { books := manager.books.insert key ⟨new.engine, settings, new.restored⟩
        live := Function.update manager.live key (manager.live key ++ [new.engine]) }

/-- Tell an engine to stop. -/
def halt (manager : Manager S) (key : Key) (engine : Nat) : Manager S :=
  { manager with live := Function.update manager.live key ((manager.live key).erase engine) }

variable (wanted : AList (fun _ : Key => S)) (spawns : Key → Option NewEngine)

/-- One round of the loop that spawns. -/
def spawnWanted (manager : Manager S) (key : Key) : Manager S :=
  match wanted.lookup key with
  | none => manager
  | some settings => manager.spawn key settings (spawns key)

/-- One round of the loop that stops. -/
def stopBook (manager : Manager S) (key : Key) : Manager S :=
  match manager.books.lookup key with
  | none => manager
  | some book => { manager.halt key book.engine with books := manager.books.erase key }

/-- One round of the loop that re-spawns: the settings changed and the book is flat. A
failed construction leaves the stopped book registered. -/
def respawnBook (manager : Manager S) (key : Key) : Manager S :=
  match wanted.lookup key, manager.books.lookup key with
  | some settings, some book =>
      if book.settings ≠ settings ∧ book.hasPosition = false then
        (manager.halt key book.engine).spawn key settings (spawns key)
      else manager
  | _, _ => manager

/-- `_reconcile`. -/
def reconcile (manager : Manager S) : Manager S :=
  let spawned := (wanted.keys.filter (· ∉ manager.books)).foldl
    (spawnWanted wanted spawns) manager
  let stopped := (spawned.books.keys.filter (· ∉ wanted)).foldl stopBook spawned
  wanted.keys.foldl (respawnBook wanted spawns) stopped

/-- A book opens or closes a position between two passes. -/
def trade (manager : Manager S) (key : Key) (hasPosition : Bool) : Manager S :=
  match manager.books.lookup key with
  | none => manager
  | some book =>
      { manager with books := manager.books.insert key { book with hasPosition := hasPosition } }

end Manager

/-- A reconcile pass with the answer of its query and the engines its spawns construct,
or a trade of a book. -/
inductive Event where
  | pass (query : Option (List Row)) (spawns : Key → Option NewEngine)
  | trade (key : Key) (hasPosition : Bool)

/-- The manager, and what the last successful query wanted. -/
structure System (S : Type) where
  manager : Manager S := {}
  lastWanted : AList (fun _ : Key => S) := ∅

def step (system : System S) : Event → System S
  | .pass query spawns =>
      { manager := system.manager.reconcile (wanted indices settings query) spawns
        lastWanted :=
          match query with
          | none => system.lastWanted
          | some rows => wantedRows indices settings rows }
  | .trade key hasPosition => { system with manager := system.manager.trade key hasPosition }

end Manager

end OptionChain.BookManagers
