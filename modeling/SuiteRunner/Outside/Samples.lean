import SuiteRunner.Outside.Request
import SuiteRunner.Text.LetterCase

/-!
  SuiteRunner.Outside.Samples
  ────────────────────────────────
  **SAMPLES OF MADE-UP DATA.**

  Who answers the questions of a run needs something to make data up from.  A sample of a kind is
  determined by one number, which is drawn by chance; different parts of a sample depend on
  different digits of it.
-/

namespace SuiteRunner.MadeUp

/-! ## §1. Words. -/

/-- First names. -/
def firstNames : List String := ["Ada", "Alan", "Amelia", "Boris", "Carla", "Daniel", "Elena",
  "Felix", "Grace", "Hugo", "Irene", "Jonas", "Katherine", "Leon", "Maria", "Nadia", "Oscar",
  "Paula", "Quentin", "Rosa", "Simon", "Theresa", "Ulrich", "Vera", "Walter", "Yvonne"]

/-- Last names. -/
def lastNames : List String := ["Abbott", "Barton", "Carlson", "Douglas", "Ellis", "Fischer",
  "Goodwin", "Hansen", "Iverson", "Jenkins", "Keller", "Larson", "Miller", "Nolan", "Olson",
  "Parker", "Quinn", "Reynolds", "Schmidt", "Turner", "Upton", "Vance", "Weber", "Young"]

/-- Cities. -/
def cities : List String := ["Ashford", "Brookhaven", "Clearwater", "Dunmore", "Eastport",
  "Fairview", "Greenfield", "Hillsboro", "Kingston", "Lakeside", "Maplewood", "Northfield",
  "Oakdale", "Riverton", "Springdale", "Westbrook"]

/-- Streets. -/
def streets : List String := ["Birch Lane", "Cedar Street", "Elm Avenue", "Forest Road",
  "Garden Street", "Hill Road", "Lake Drive", "Maple Avenue", "Oak Street", "Park Road",
  "River Street", "Station Road"]

/-- Endings of the names of companies. -/
def companyEndings : List String := ["Group", "Inc", "LLC", "and Sons", "Partners"]

/-- Words without meaning. -/
def words : List String := ["alias", "aut", "culpa", "dolor", "eos", "fugit", "harum", "ipsum",
  "labore", "magni", "nemo", "odio", "porro", "quia", "rerum", "sit", "totam", "velit"]

/-- Domains for examples. -/
def exampleDomains : List String := ["example.com", "example.net", "example.org"]

/-- The characters of passwords. -/
def passwordChars : List Char :=
  "abcdefghijklmnopqrstuvwxyzABCDEFGHIJKLMNOPQRSTUVWXYZ0123456789".toList

/-! ## §2. Samples. -/

/-- One of some words. -/
def oneOf (options : List String) (n : Nat) : String := options.getD (n % options.length) ""

/-- The lowest digits of a number, each as a number below the base. -/
def lowest (base : Nat) : Nat → Nat → List Nat
  | 0, _ => []
  | width + 1, n => n % base :: lowest base width (n / base)

/-- The lowest digits of a number as characters. -/
def digits (base width n : Nat) : String := String.ofList ((lowest base width n).map Nat.digitChar)

/-- A name to log in with. -/
def loginName (n : Nat) : String :=
  LetterCase.toLower (oneOf firstNames n) ++ toString (1 + n / firstNames.length % 999)

/-- An identifier of 122 bits in its usual groups. -/
def identifier (n : Nat) : String :=
  let hex := lowest 16 31 n
  let part (start length : Nat) : String :=
    String.ofList (((hex.drop start).take length).map Nat.digitChar)
  let variant := String.ofList [Nat.digitChar (8 + hex.getD 15 0 % 4)]
  part 0 8 ++ "-" ++ part 8 4 ++ "-4" ++ part 12 3 ++ "-" ++ variant ++ part 16 3 ++ "-" ++ part 19 12

/-- **A sample of a kind,** by a number. -/
def sample (kind : MadeUp) (n : Nat) : String :=
  match kind with
  | .name => oneOf firstNames n ++ " " ++ oneOf lastNames (n / firstNames.length)
  | .firstName => oneOf firstNames n
  | .lastName => oneOf lastNames n
  | .email => loginName n ++ "@" ++ oneOf exampleDomains (n / (999 * firstNames.length))
  | .username => loginName n
  | .phone => digits 10 3 n ++ "-" ++ digits 10 3 (n / 1000) ++ "-" ++ digits 10 4 (n / 1000000)
  | .street => oneOf streets n
  | .city => oneOf cities n
  | .uuid => identifier n
  | .password =>
    String.ofList ((lowest passwordChars.length (12 + n % 4) (n / 4)).map fun i =>
      passwordChars.getD i 'x')
  | .company => oneOf lastNames n ++ " " ++ oneOf companyEndings (n / lastNames.length)
  | .word => oneOf words n

/-- A bound for the numbers of samples, more than any of them needs. -/
def bound : Nat := Nat.pow 2 128

end SuiteRunner.MadeUp
