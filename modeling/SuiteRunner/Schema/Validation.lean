import SuiteRunner.Assertion.Outcome
import SuiteRunner.Schema.Reading

/-!
  SuiteRunner.Schema.Validation
  ────────────────────────────────
  **WHETHER A DOCUMENT FOLLOWS A SCHEMA.**

  Every keyword yields the faults that it finds, each with the place in the document; a document
  follows a schema if there are none.  Rules may point to other places of the schema, so the
  evaluation carries a bound on its depth that no schema reaches whose rules do not run in
  circles.

  Of the language two things are left out.  Formats decide nothing, although the editions before
  2019 let them; and identifiers are compared as they are written, without being resolved against
  the identifiers of the parts around them.  Nothing that is proved of a run depends on what the
  verdict of a schema is.
-/

namespace SuiteRunner.Schema

/-- What is wrong at a place of a document. -/
structure Violation where
  place : List String
  text : String
  deriving DecidableEq, Repr

/-! ## §1. Addresses. -/

/-- A segment of a pointer as it is written. -/
def segmentText (s : String) : String :=
  String.ofList (s.toList.flatMap fun c =>
    if c = '~' then ['~', '0'] else if c = '/' then ['~', '1'] else [c])

/-- A place as a pointer. -/
def pointerText (place : List String) : String :=
  String.join (place.map fun s => "/" ++ segmentText s)

/-- A segment of a pointer as it is meant. -/
def segmentOf : List Char → List Char
  | '~' :: '0' :: rest => '~' :: segmentOf rest
  | '~' :: '1' :: rest => '/' :: segmentOf rest
  | c :: rest => c :: segmentOf rest
  | [] => []

/-- One step down a pointer. -/
def stepDown? (v : Json) (segment : String) : Option Json :=
  match v with
  | .obj ms => Json.lookup? segment ms
  | .arr items => (natOfText? 0xffffffffffffffff segment).bind fun i => items[i]?
  | _ => none

mutual
/-- The first object of a document that passes a test. -/
def partWith? (test : List (String × Json) → Bool) : Json → Option Json
  | .obj ms => if test ms then some (.obj ms) else memberWith? test ms
  | .arr items => itemWith? test items
  | _ => none

/-- The first object of an array that passes a test. -/
def itemWith? (test : List (String × Json) → Bool) : List Json → Option Json
  | [] => none
  | v :: rest => (partWith? test v).orElse fun _ => itemWith? test rest

/-- The first object below an object that passes a test. -/
def memberWith? (test : List (String × Json) → Bool) : List (String × Json) → Option Json
  | [] => none
  | (_, v) :: rest => (partWith? test v).orElse fun _ => memberWith? test rest
end

/-- Whether an object bears a name; in early editions it is part of the identifier. -/
def bears (d : Dialect) (name : String) (ms : List (String × Json)) : Bool :=
  if d.isFrom .edition2019 then
    Json.lookup? "$anchor" ms == some (.str name) || Json.lookup? "$dynamicAnchor" ms == some (.str name)
  else Json.lookup? d.idKeyword ms == some (.str ("#" ++ name))

/-- Whether an object has an identifier; a number sign at its end does not count. -/
def identifies (d : Dialect) (name : String) (ms : List (String × Json)) : Bool :=
  let id := Json.lookup? d.idKeyword ms
  id == some (.str name) || id == some (.str (name ++ "#"))

/-- The part of a schema that a place in it names: a pointer, or a name that the part bears. -/
def partAt? (d : Dialect) (root : Json) : List Char → Option Json
  | [] => some root
  | '/' :: rest =>
    ((Text.split "/" (String.ofList rest)).map fun s => String.ofList (segmentOf s.toList)).foldlM
      stepDown? root
  | name => partWith? (bears d (String.ofList name)) root

/-- **The part of a schema that an address names:** a place in the whole of it, or in the part that
has the identifier before the number sign. -/
def at? (d : Dialect) (root : Json) (address : String) : Option Json :=
  let identifier := address.toList.takeWhile (· != '#')
  let place := (address.toList.dropWhile (· != '#')).drop 1
  if identifier.isEmpty then partAt? d root place
  else (partWith? (identifies d (String.ofList identifier)) root).bind fun v => partAt? d v place

/-- The rule that an address names. -/
def ruleAt (d : Dialect) (fuel : Nat) (root : Json) (address : String) : Except Fault Rule :=
  match at? d root address with
  | some v => ruleOf d fuel v
  | none => .error ("nothing is at '" ++ address ++ "'")

/-! ## §2. What is said about faults. -/

/-- A number and the word for what is counted. -/
def counted (n : Nat) (one many : String) : String := toString n ++ " " ++ (if n = 1 then one else many)

/-- The words for what is counted. -/
def countedText (c : Counted) (n : Nat) : String :=
  match c with
  | .characters => counted n "character" "characters"
  | .items => counted n "item" "items"
  | .members => counted n "property" "properties"

/-- Too many of what is counted. -/
def tooMany (c : Counted) : String :=
  match c with
  | .characters => " is longer than "
  | _ => " has more than "

/-- Too few of what is counted. -/
def tooFew (c : Counted) : String :=
  match c with
  | .characters => " is shorter than "
  | _ => " has less than "

/-- A bound that is not kept. -/
def boundText : Bound → String
  | .atMost => " is greater than the maximum of "
  | .atLeast => " is less than the minimum of "
  | .below => " is greater than or equal to the maximum of "
  | .above => " is less than or equal to the minimum of "

/-- Types that a value does not have. -/
def typesText (ts : List TypeName) : String :=
  let quoted (t : TypeName) : String := "\"" ++ t.word ++ "\""
  match ts with
  | [t] => " is not of type " ++ quoted t
  | _ =>
    " is not of types " ++ ", ".intercalate
      ((TypeName.named.filter fun e => ts.contains e.2).map fun e => quoted e.2)

/-- Members or items that may not be there. -/
def unexpectedText (what : String) (texts : List String) : String :=
  what ++ " are not allowed (" ++ ", ".intercalate texts
    ++ (if texts.length = 1 then " was unexpected)" else " were unexpected)")

/-- Texts in quotes. -/
def inQuotes (texts : List String) : List String := texts.map fun t => "'" ++ t ++ "'"

/-! ## §3. Validation. -/

/-- Faults found at a place, if a test fails. -/
def unless_ (ok : Bool) (place : List String) (text : String) : List Violation :=
  if ok then [] else [⟨place, text⟩]

/-- Faults for a kind of values only; any other value has none. -/
def forArray (v : Json) (f : List Json → List Violation) : List Violation :=
  match v with
  | .arr items => f items
  | _ => []

/-- Faults for objects only. -/
def forObject (v : Json) (f : List (String × Json) → List Violation) : List Violation :=
  match v with
  | .obj ms => f ms
  | _ => []

/-- Faults in the order of members, and the names of the members that no rule took. -/
def collect (f : String × Json → List Violation × Bool) (ms : List (String × Json)) :
    List Violation × List String :=
  ms.foldl (fun (vs, names) m =>
    let (found, taken) := f m
    (vs ++ found, if taken then names else names ++ [m.1])) ([], [])

/-- The parts of a value, by the last segments of their places. -/
def parts : Json → List (String × Json)
  | .arr items => items.zipIdx.map fun (w, i) => (toString i, w)
  | .obj ms => ms
  | _ => []

/-- The parts of an array, by their positions. -/
def itemParts : Json → List (String × Json)
  | .arr items => parts (.arr items)
  | _ => []

/-- The parts of an object, by their names. -/
def memberParts : Json → List (String × Json)
  | .obj ms => ms
  | _ => []

/-- **The parts of a value that a keyword has dealt with,** because it applied one of its rules to
them and that rule accepts them. -/
def partsSeen (accepts : Rule → Json → Bool) (below : Rule → Json → List String)
    (other : String → Except Fault Rule) (k : Keyword) (v : Json) : List String :=
  let accepted (r : Rule) (ps : List (String × Json)) : List String :=
    (ps.filter fun p => accepts r p.2).map Prod.fst
  let named (rules : List (String × Rule)) : List String :=
    rules.flatMap fun (k, r) => accepted r ((memberParts v).filter fun p => p.1 == k)
  let matched (rules : List (Regex.Pattern × Rule)) : List String :=
    rules.flatMap fun (p, r) => accepted r ((memberParts v).filter fun m => p.isMatch m.1)
  match k with
  | .front rs => ((itemParts v).take rs.length).map Prod.fst
  | .items _ _ => (itemParts v).map Prod.fst
  | .contains r _ _ => accepted r (itemParts v)
  | .unseenItems r => accepted r (itemParts v)
  | .members rules => named rules
  | .memberPatterns rules => matched rules
  | .allMembers rules patterns _ _ others =>
    named rules ++ matched patterns ++ accepted others (memberParts v)
  | .unseenMembers r => accepted r (memberParts v)
  | .rulesWith rules =>
    rules.flatMap fun (k, r) => if (v.member? k).isSome then below r v else []
  | .allOf rs => (rs.filter fun r => accepts r v).flatMap fun r => below r v
  | .anyOf rs => (rs.filter fun r => accepts r v).flatMap fun r => below r v
  | .oneOf rs =>
    match rs.filter fun r => accepts r v with
    | [r] => below r v
    | _ => []
  | .when test yes no =>
    let seen (r : Option Rule) : List String := (r.map fun r => below r v).getD []
    if accepts test v then below test v ++ seen yes else seen no
  | .other address =>
    match other address with
    | .ok r => below r v
    | .error _ => []
  | _ => []

/-- The faults that a keyword finds; the parts that no keyword next to it has dealt with are
those that are not in `seen`. -/
def keywordViolations (check : Rule → List String → Json → List Violation)
    (other : String → Except Fault Rule) (seen : Json → List String) (k : Keyword)
    (place : List String) (v : Json) : List Violation :=
  let unseen (ps : List (String × Json)) : List (String × Json) :=
    let known := if ps.isEmpty then [] else seen v
    ps.filter fun p => !known.contains p.1
  let accepts (r : Rule) (v : Json) : Bool := (check r place v).isEmpty
  match k with
  | .types ts => unless_ (ts.any (hasType v)) place (v.compact ++ typesText ts)
  | .const w => unless_ (isConst w v) place (w.compact ++ " was expected")
  | .enum ws =>
    unless_ (ws.any fun w => equal w v) place (v.compact ++ " is not one of " ++ (Json.arr ws).compact)
  | .bound b limit =>
    match v with
    | .num n =>
      unless_ (keeps b limit n) place (v.compact ++ boundText b ++ (Json.num limit).compact)
    | _ => []
  | .multipleOf x =>
    match v with
    | .num n =>
      unless_ (isMultiple n.toDouble x) place (v.compact ++ " is not a multiple of " ++ x.plainText)
    | _ => []
  | .atMost c n =>
    match countOf c v with
    | some m => unless_ (m ≤ n) place (v.compact ++ tooMany c ++ countedText c n)
    | none => []
  | .atLeast c n =>
    match countOf c v with
    | some m => unless_ (n ≤ m) place (v.compact ++ tooFew c ++ countedText c n)
    | none => []
  | .pattern text p =>
    match v with
    | .str s => unless_ (p.isMatch s) place (v.compact ++ " does not match \"" ++ text ++ "\"")
    | _ => []
  | .uniqueItems =>
    forArray v fun items => unless_ (allDistinct items) place (v.compact ++ " has non-unique elements")
  | .front rs =>
    forArray v fun items =>
      ((rs.zip items).zipIdx).flatMap fun ((r, w), i) => check r (place ++ [toString i]) w
  | .items skip r =>
    forArray v fun items =>
      (items.zipIdx.drop skip).flatMap fun (w, i) => check r (place ++ [toString i]) w
  | .noItemsAfter n =>
    forArray v fun items =>
      let extra := items.drop n
      unless_ extra.isEmpty place (unexpectedText "Additional items" (extra.map Json.compact))
  | .unseenItems _ =>
    let left := unseen (itemParts v)
    unless_ left.isEmpty place
      (unexpectedText "Unevaluated items" (inQuotes (left.map fun p => p.2.compact)))
  | .unseenMembers _ =>
    let left := unseen (memberParts v)
    unless_ left.isEmpty place
      (unexpectedText "Unevaluated properties" (inQuotes (left.map Prod.fst)))
  | .contains r low high =>
    forArray v fun items =>
      let n := items.countP fun w => accepts r w
      unless_ (low ≤ n && n ≤ high.getD n) place
        ("None of " ++ v.compact ++ " are valid under the given schema")
  | .required names =>
    forObject v fun ms => missing place ms names
  | .requiredWith deps =>
    forObject v fun ms => deps.flatMap fun (k, names) =>
      if (Json.lookup? k ms).isSome then missing place ms names else []
  | .rulesWith rules =>
    forObject v fun ms => rules.flatMap fun (k, r) =>
      if (Json.lookup? k ms).isSome then check r place v else []
  | .members rules =>
    forObject v fun ms => rules.flatMap fun (k, r) =>
      match Json.lookup? k ms with
      | some w => check r (place ++ [k]) w
      | none => []
  | .memberPatterns rules =>
    forObject v fun ms => rules.flatMap fun (p, r) =>
      (ms.filter fun m => p.isMatch m.1).flatMap fun (k, w) => check r (place ++ [k]) w
  | .allMembers rules patterns byName byPattern others =>
    forObject v fun ms =>
      match others, byName || byPattern with
      | .never, false =>
        match ms with
        | [] => []
        | (_, w) :: _ => check .never place w
      | _, _ =>
        let (found, rest) := collect (fun (k, w) =>
          let named := (rules.lookup k).map fun r => check r (place ++ [k]) w
          let matched := (patterns.filter fun e => e.1.isMatch k).map fun e =>
            check e.2 (place ++ [k]) w
          let taken := named.isSome || !matched.isEmpty
          let other := match others, taken with
            | .never, _ => []
            | _, true => []
            | r, false => check r (place ++ [k]) w
          (named.getD [] ++ matched.flatten ++ other, taken)) ms
        match others with
        | .never => found ++ unless_ rest.isEmpty place (unexpectedText "Additional properties" (inQuotes rest))
        | _ => found
  | .memberNames r =>
    forObject v fun ms => ms.flatMap fun (k, _) => check r place (.str k)
  | .allOf rs => rs.flatMap fun r => check r place v
  | .anyOf rs =>
    unless_ (rs.any fun r => accepts r v) place
      (v.compact ++ " is not valid under any of the schemas listed in the 'anyOf' keyword")
  | .oneOf rs =>
    match rs.countP fun r => accepts r v with
    | 0 => [⟨place, v.compact
        ++ " is not valid under any of the schemas listed in the 'oneOf' keyword"⟩]
    | 1 => []
    | _ => [⟨place, v.compact
        ++ " is valid under more than one of the schemas listed in the 'oneOf' keyword"⟩]
  | .not source r =>
    unless_ (!accepts r v) place (source.compact ++ " is not allowed for " ++ v.compact)
  | .when test yes no =>
    match if accepts test v then yes else no with
    | some r => check r place v
    | none => []
  | .other address =>
    match other address with
    | .ok r => check r place v
    | .error _ => []
where
  /-- Members that are not there but have to be. -/
  missing (place : List String) (ms : List (String × Json)) (names : List String) :
      List Violation :=
    names.flatMap fun n =>
      unless_ (Json.lookup? n ms).isSome place (Json.quote n ++ " is a required property")

mutual
/-- The faults that a rule finds. -/
def violations (d : Dialect) (root : Json) : Nat → Rule → List String → Json → List Violation
  | 0, _, _, _ => []
  | bound + 1, r, place, v =>
    match r with
    | .always => []
    | .never => [⟨place, "False schema does not allow " ++ v.compact⟩]
    | .all ks =>
      ks.flatMap fun k =>
        keywordViolations (violations d root bound) (ruleAt d (bound + 1) root)
          (seenBy d root bound (.all ks)) k place v

/-- The parts of a value that a rule has dealt with. -/
def seenBy (d : Dialect) (root : Json) : Nat → Rule → Json → List String
  | 0, _, _ => []
  | bound + 1, r, v =>
    match r with
    | .all ks =>
      ks.flatMap fun k =>
        partsSeen (fun r w => (violations d root bound r [] w).isEmpty) (seenBy d root bound)
          (ruleAt d (bound + 1) root) k v
    | _ => []
end

/-! ## §4. Schemas of responses. -/

mutual
/-- How deep a document is nested. -/
def depth : Json → Nat
  | .arr items => depthOfItems items + 1
  | .obj ms => depthOfMembers ms + 1
  | _ => 1

/-- How deep the items are nested. -/
def depthOfItems : List Json → Nat
  | [] => 0
  | v :: rest => max (depth v) (depthOfItems rest)

/-- How deep the members are nested. -/
def depthOfMembers : List (String × Json) → Nat
  | [] => 0
  | (_, v) :: rest => max (depth v) (depthOfMembers rest)
end

mutual
/-- How many values a document has. -/
def size : Json → Nat
  | .arr items => sizeOfItems items + 1
  | .obj ms => sizeOfMembers ms + 1
  | _ => 1

/-- How many values the items have. -/
def sizeOfItems : List Json → Nat
  | [] => 0
  | v :: rest => size v + sizeOfItems rest

/-- How many values the members have. -/
def sizeOfMembers : List (String × Json) → Nat
  | [] => 0
  | (_, v) :: rest => size v + sizeOfMembers rest
end

mutual
/-- The first address that a rule names and that leads nowhere. -/
def lostAddress? (d : Dialect) (root : Json) : Nat → Json → Option String
  | 0, _ => none
  | fuel + 1, v =>
    match v with
    | .obj ms => lostInMembers? d root fuel ms
    | .arr items => items.findSome? (lostAddress? d root fuel)
    | _ => none

/-- The first lost address in members; definitions and plain values are passed over. -/
def lostInMembers? (d : Dialect) (root : Json) : Nat → List (String × Json) → Option String
  | 0, _ => none
  | _, [] => none
  | fuel + 1, (k, v) :: rest =>
    let here :=
      if k = "$ref" then
        match v with
        | .str address =>
          match ruleAt d (depth root + 1) root address with
          | .ok _ => none
          | .error _ => some address
        | _ => none
      else if ["const", "enum", "default", "examples", "$defs", "definitions"].contains k then none
      else lostAddress? d root fuel v
    here.orElse fun _ => lostInMembers? d root fuel rest
end

/-- The rule that a whole document is, and its edition. -/
def ofDocument (v : Json) : Except Fault (Dialect × Rule) := do
  match Dialect.ofDocument? v with
  | none => .error "unknown edition"
  | some d =>
    let r ← ruleOf d (depth v + 1) v
    match lostAddress? d v (2 * size v + 1) v with
    | some address => .error ("nothing is at '" ++ address ++ "'")
    | none => return (d, r)

/-- **The faults of a document under a schema.** -/
def faults (d : Dialect) (schema : Json) (r : Rule) (v : Json) : List Violation :=
  violations d schema (4 * (size schema + 2) * (depth v + 2)) r [] v

/-- The text of a fault. -/
def Violation.message (e : Violation) : String :=
  let at_ := pointerText e.place
  if at_.isEmpty then e.text else e.text ++ " (at " ++ at_ ++ ")"

/-- **The verdict of a schema on the body of a response.** -/
def verdict (schema : Json) (body : Option Json) : Verdict :=
  match body with
  | none => .error "schema: response body is not JSON"
  | some v =>
    match ofDocument schema with
    | .error e => .error ("schema: invalid response schema: " ++ e)
    | .ok (d, r) =>
      match faults d schema r v with
      | [] => .ok ()
      | found => .error ("schema: " ++ "; ".intercalate (found.map Violation.message))

end SuiteRunner.Schema
