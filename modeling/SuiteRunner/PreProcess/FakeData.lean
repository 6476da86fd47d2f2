import SuiteRunner.Outside.Request
import SuiteRunner.Text.LetterCase

/-!
  SuiteRunner.PreProcess.FakeData
  ────────────────────────────────
  **MADE-UP DATA.**

  Names, numbers, words and the like are made up outside and may be any texts.  What is put together
  here is the rest: which kind a word names, an address of a house and a street, a word with a
  number for a kind that is not known, and a user with a value for every field, whose address of
  mail is its name at the domain for examples.
-/

namespace SuiteRunner.FakeData

variable {σ : Type}

/-- A value that is made up outside. -/
def madeUp (kind : MadeUp) : Task σ String := Task.ask (.madeUp kind)

/-- A number from `low` up to but not including `high`. -/
def numberBetween (low high : Nat) : Task σ Nat := do
  let n : Nat ← Task.ask (.draw (high - low))
  return low + n % max (high - low) 1

/-- A house on a street. -/
def address : Task σ String := do
  let house ← numberBetween 1 9999
  let street ← madeUp .street
  return toString house ++ " " ++ street

/-- A word and a number. -/
def wordAndNumber : Task σ String := do
  let word ← madeUp .word
  let n ← numberBetween 1000 9999
  return word ++ toString n

/-- **A made-up value of a kind,** whatever the case of its letters. -/
def value (kind : String) : Task σ String :=
  match LetterCase.asciiLower kind with
  | "name" | "fullname" => madeUp .name
  | "firstname" => madeUp .firstName
  | "lastname" => madeUp .lastName
  | "email" => madeUp .email
  | "username" => madeUp .username
  | "phone" => madeUp .phone
  | "address" => address
  | "city" => madeUp .city
  | "uuid" => madeUp .uuid
  | "password" => madeUp .password
  | "company" => madeUp .company
  | _ => wordAndNumber

/-- **A made-up user.** -/
def user : Task σ Json := do
  let first ← madeUp .firstName
  let last ← madeUp .lastName
  let suffix ← numberBetween 100 999
  let name := LetterCase.toLower (first ++ "." ++ last ++ toString suffix)
  let phone ← value "phone"
  let password ← value "password"
  let address ← value "address"
  let city ← value "city"
  let company ← value "company"
  return .obj [("firstName", .str first), ("lastName", .str last),
    ("fullName", .str (first ++ " " ++ last)), ("username", .str name),
    ("email", .str (name ++ "@example.com")), ("phone", .str phone), ("password", .str password),
    ("address", .str address), ("city", .str city), ("company", .str company)]

end SuiteRunner.FakeData
