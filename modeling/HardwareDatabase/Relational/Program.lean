/-
Module: HardwareDatabase.Relational.Program
Purpose: Programs that make calls to a shared store, with failures and handlers; a run of several interleaves their
  calls.
Trusted boundary: none
-/

namespace Relational

/-- A program that makes calls `κ`, each answered with a `ρ`, and ends with a value or a failure. -/
inductive Program (κ ρ ε α : Type)
  | done (value : α)
  | fail (failure : ε)
  | call (request : κ) (next : ρ → Program κ ρ ε α)

namespace Program

variable {κ ρ ε α β : Type}

/-- One program after the other. -/
def bind (first : Program κ ρ ε α) (second : α → Program κ ρ ε β) : Program κ ρ ε β :=
  match first with
  | .done value => second value
  | .fail failure => .fail failure
  | .call request next => .call request fun answer => (next answer).bind second

instance : Monad (Program κ ρ ε) where
  pure := .done
  bind := bind

/-- A program whose failure a handler takes over. -/
def tryCatch (body : Program κ ρ ε α) (handler : ε → Program κ ρ ε α) : Program κ ρ ε α :=
  match body with
  | .done value => .done value
  | .fail failure => handler failure
  | .call request next => .call request fun answer => (next answer).tryCatch handler

/-- The call that a program is about to make. -/
def pending : Program κ ρ ε α → Option κ
  | .call request _ => some request
  | _ => none

/-- The program after the answer to its call. -/
def answered (program : Program κ ρ ε α) (answer : ρ) : Program κ ρ ε α :=
  match program with
  | .call _ next => next answer
  | ended => ended

end Program

end Relational
