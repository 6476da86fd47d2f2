import SuiteRunner.Text.Blank
import SuiteRunner.Text.Category
import SuiteRunner.Text.LetterCase
import SuiteRunner.Text.Split

/-!
  SuiteRunner.Regex.CharSet
  ────────────────────────────────
  **SETS OF CHARACTERS.**

  A set is built from ranges, from the classes for words, digits and blanks, and from set
  operations.  Where letter case does not count, a character is in a range if one of its case
  variants is; this is decided at the ranges, before any complement is taken.
-/

namespace SuiteRunner.Regex

/-- A set of characters. -/
inductive CharSet where
  /-- Code points in ranges; with `anyCase` their case variants too. -/
  | ranges (rs : Category.Ranges) (anyCase : Bool)
  | word
  | digit
  | blank
  | none
  | compl (s : CharSet)
  | union (a b : CharSet)
  | inter (a b : CharSet)
  deriving Repr, Inhabited

/-- The code points whose folded form is a given one, as far as the tables lead there. -/
def caseSources (f : Nat) : List Nat :=
  (LetterCase.lowerRuns ++ LetterCase.foldRuns).filterMap fun r =>
    let n : Int := (f : Int) - r.shift
    if n < 0 then Option.none
    else
      let n := n.toNat
      if r.first ≤ n && n ≤ r.last && (n - r.first) % r.step == 0 && LetterCase.foldCode n == f
      then some n else Option.none

/-- The code points of the case variants of a character, the character itself included. -/
def caseVariants (c : Char) : List Nat :=
  let f := (LetterCase.fold c).toNat
  c.toNat :: f :: caseSources f

namespace CharSet

/-- Whether a character is in a set. -/
def has : CharSet → Char → Bool
  | .ranges rs anyCase, c =>
    if anyCase then (caseVariants c).any rs.has else rs.has c.toNat
  | .word, c => Category.isWord c
  | .digit, c => Category.isDecimal c
  | .blank, c => Text.isBlank c
  | .none, _ => false
  | .compl s, c => !s.has c
  | .union a b, c => a.has c || b.has c
  | .inter a b, c => a.has c && b.has c

/-- One character. -/
def single (c : Char) (anyCase : Bool) : CharSet := .ranges [(c.toNat, c.toNat)] anyCase

/-- What is in the first set and not in the second. -/
def diff (a b : CharSet) : CharSet := .inter a (.compl b)

/-- What is in exactly one of two sets. -/
def symDiff (a b : CharSet) : CharSet := .union (diff a b) (diff b a)

/-- A set or its complement. -/
def signed (negated : Bool) (s : CharSet) : CharSet := if negated then .compl s else s

end CharSet

/-! ## Named sets. -/

/-- The ASCII classes that are written between colons. -/
def asciiClass? (name : String) : Option Category.Ranges :=
  match name with
  | "alnum" => some [(0x30, 0x39), (0x41, 0x5a), (0x61, 0x7a)]
  | "alpha" => some [(0x41, 0x5a), (0x61, 0x7a)]
  | "ascii" => some [(0, 0x7f)]
  | "blank" => some [(9, 9), (0x20, 0x20)]
  | "cntrl" => some [(0, 0x1f), (0x7f, 0x7f)]
  | "digit" => some [(0x30, 0x39)]
  | "graph" => some [(0x21, 0x7e)]
  | "lower" => some [(0x61, 0x7a)]
  | "print" => some [(0x20, 0x7e)]
  | "punct" => some [(0x21, 0x2f), (0x3a, 0x40), (0x5b, 0x60), (0x7b, 0x7e)]
  | "space" => some [(9, 0xd), (0x20, 0x20)]
  | "upper" => some [(0x41, 0x5a)]
  | "word" => some [(0x30, 0x39), (0x41, 0x5a), (0x5f, 0x5f), (0x61, 0x7a)]
  | "xdigit" => some [(0x30, 0x39), (0x41, 0x46), (0x61, 0x66)]
  | _ => none

/-- Scripts by the blocks that hold their letters. -/
def script? (name : String) : Option Category.Ranges :=
  match name with
  | "latin" | "latn" => some [(0x41, 0x5a), (0x61, 0x7a), (0xaa, 0xaa), (0xba, 0xba), (0xc0, 0xd6),
      (0xd8, 0xf6), (0xf8, 0x2b8), (0x2e0, 0x2e4), (0x1d00, 0x1d25), (0x1d2c, 0x1d5c),
      (0x1d62, 0x1d65), (0x1d6b, 0x1d77), (0x1d79, 0x1dbe), (0x1e00, 0x1eff), (0x2071, 0x2071),
      (0x207f, 0x207f), (0x2090, 0x209c), (0x212a, 0x212b), (0x2132, 0x2132), (0x214e, 0x214e),
      (0x2160, 0x2188), (0x2c60, 0x2c7f), (0xa722, 0xa787), (0xa78b, 0xa7ca), (0xa7f2, 0xa7ff),
      (0xab30, 0xab5a), (0xab5c, 0xab64), (0xfb00, 0xfb06), (0xff21, 0xff3a), (0xff41, 0xff5a)]
  | "greek" | "grek" => some [(0x370, 0x373), (0x375, 0x377), (0x37a, 0x37d), (0x37f, 0x37f),
      (0x384, 0x384), (0x386, 0x386), (0x388, 0x38a), (0x38c, 0x38c), (0x38e, 0x3a1),
      (0x3a3, 0x3e1), (0x3f0, 0x3ff), (0x1d26, 0x1d2a), (0x1d5d, 0x1d61), (0x1d66, 0x1d6a),
      (0x1dbf, 0x1dbf), (0x1f00, 0x1ffe), (0x2126, 0x2126)]
  | "cyrillic" | "cyrl" => some [(0x400, 0x484), (0x487, 0x52f), (0x1c80, 0x1c88),
      (0x1d2b, 0x1d2b), (0x1d78, 0x1d78), (0x2de0, 0x2dff), (0xa640, 0xa69f), (0xfe2e, 0xfe2f)]
  | "han" | "hani" => some [(0x2e80, 0x2e99), (0x2e9b, 0x2ef3), (0x2f00, 0x2fd5), (0x3005, 0x3005),
      (0x3007, 0x3007), (0x3021, 0x3029), (0x3038, 0x303b), (0x3400, 0x4dbf), (0x4e00, 0x9fff),
      (0xf900, 0xfa6d), (0xfa70, 0xfad9), (0x16fe2, 0x16fe3), (0x16ff0, 0x16ff1),
      (0x20000, 0x2a6df), (0x2a700, 0x2ebe0), (0x2f800, 0x2fa1d), (0x30000, 0x323af)]
  | "hiragana" | "hira" => some [(0x3041, 0x3096), (0x309d, 0x309f), (0x1b001, 0x1b11f),
      (0x1b150, 0x1b152), (0x1f200, 0x1f200)]
  | "katakana" | "kana" => some [(0x30a1, 0x30fa), (0x30fd, 0x30ff), (0x31f0, 0x31ff),
      (0x32d0, 0x32fe), (0x3300, 0x3357), (0xff66, 0xff6f), (0xff71, 0xff9d)]
  | "hangul" | "hang" => some [(0x1100, 0x11ff), (0x302e, 0x302f), (0x3131, 0x318e),
      (0x3200, 0x321e), (0x3260, 0x327e), (0xa960, 0xa97c), (0xac00, 0xd7a3), (0xd7b0, 0xd7fb),
      (0xffa0, 0xffdc)]
  | "hebrew" | "hebr" => some [(0x591, 0x5c7), (0x5d0, 0x5ea), (0x5ef, 0x5f4), (0xfb1d, 0xfb4f)]
  | "arabic" | "arab" => some [(0x600, 0x604), (0x606, 0x60b), (0x60d, 0x61a), (0x61c, 0x61e),
      (0x620, 0x63f), (0x641, 0x64a), (0x656, 0x66f), (0x671, 0x6dc), (0x6de, 0x6ff),
      (0x750, 0x77f), (0x8a0, 0x8e1), (0x8e3, 0x8ff), (0xfb50, 0xfdff), (0xfe70, 0xfefc)]
  | "thai" => some [(0xe01, 0xe3a), (0xe40, 0xe5b)]
  | "devanagari" | "deva" => some [(0x900, 0x950), (0x955, 0x963), (0x966, 0x97f), (0xa8e0, 0xa8ff)]
  | "armenian" | "armn" => some [(0x531, 0x556), (0x559, 0x58a), (0x58d, 0x58f), (0xfb13, 0xfb17)]
  | "georgian" | "geor" => some [(0x10a0, 0x10c5), (0x10c7, 0x10c7), (0x10cd, 0x10cd),
      (0x10d0, 0x10fa), (0x10fc, 0x10ff), (0x1c90, 0x1cba), (0x1cbd, 0x1cbf), (0x2d00, 0x2d25),
      (0x2d27, 0x2d27), (0x2d2d, 0x2d2d)]
  | _ => none

/-- General categories by their short and long names, in lower case and without separators. -/
def category? (name : String) : Option Category.Ranges :=
  match name with
  | "l" | "letter" => some Category.letter
  | "lu" | "uppercaseletter" => some Category.uppercaseLetter
  | "ll" | "lowercaseletter" => some Category.lowercaseLetter
  | "lt" | "titlecaseletter" => some Category.titlecaseLetter
  | "lc" | "casedletter" =>
    some (Category.uppercaseLetter ++ Category.lowercaseLetter ++ Category.titlecaseLetter)
  | "lm" | "modifierletter" => some Category.modifierLetter
  | "lo" | "otherletter" => some Category.otherLetter
  | "m" | "mark" | "combiningmark" => some Category.mark
  | "mn" | "nonspacingmark" => some Category.nonspacingMark
  | "mc" | "spacingmark" => some Category.spacingMark
  | "me" | "enclosingmark" => some Category.enclosingMark
  | "n" | "number" => some Category.number
  | "nd" | "decimalnumber" | "digit" => some Category.decimalNumber
  | "nl" | "letternumber" => some Category.letterNumber
  | "no" | "othernumber" => some Category.otherNumber
  | "p" | "punctuation" | "punct" => some Category.punctuation
  | "pc" | "connectorpunctuation" => some Category.connectorPunctuation
  | "pd" | "dashpunctuation" => some Category.dashPunctuation
  | "ps" | "openpunctuation" => some Category.openPunctuation
  | "pe" | "closepunctuation" => some Category.closePunctuation
  | "pi" | "initialpunctuation" => some Category.initialPunctuation
  | "pf" | "finalpunctuation" => some Category.finalPunctuation
  | "po" | "otherpunctuation" => some Category.otherPunctuation
  | "s" | "symbol" => some Category.symbol
  | "sm" | "mathsymbol" => some Category.mathSymbol
  | "sc" | "currencysymbol" => some Category.currencySymbol
  | "sk" | "modifiersymbol" => some Category.modifierSymbol
  | "so" | "othersymbol" => some Category.otherSymbol
  | "z" | "separator" => some Category.separator
  | "zs" | "spaceseparator" => some Category.spaceSeparator
  | "zl" | "lineseparator" => some Category.lineSeparator
  | "zp" | "paragraphseparator" => some Category.paragraphSeparator
  | "cc" | "control" | "cntrl" => some Category.control
  | "cf" | "format" => some Category.format
  | "co" | "privateuse" => some Category.privateUse
  | "assigned" => some Category.assigned
  | "any" => some [(0, 0x10ffff)]
  | "ascii" => some [(0, 0x7f)]
  | _ => none

/-- Properties by their names, in lower case and without separators. -/
def property? (name : String) : Option Category.Ranges :=
  match name with
  | "alphabetic" | "alpha" => some Category.alphabetic
  | "uppercase" | "upper" => some (Category.uppercaseLetter ++ [(0x2160, 0x216f), (0x24b6, 0x24cf)])
  | "lowercase" | "lower" =>
    some (Category.lowercaseLetter ++ [(0xaa, 0xaa), (0xba, 0xba), (0x2170, 0x217f), (0x24d0, 0x24e9)])
  | "whitespace" | "wspace" | "space" => some [(9, 0xd), (0x20, 0x20), (0x85, 0x85), (0xa0, 0xa0),
      (0x1680, 0x1680), (0x2000, 0x200a), (0x2028, 0x2029), (0x202f, 0x202f), (0x205f, 0x205f),
      (0x3000, 0x3000)]
  | "emoji" => some [(0x23, 0x23), (0x2a, 0x2a), (0x30, 0x39), (0xa9, 0xa9), (0xae, 0xae),
      (0x203c, 0x203c), (0x2049, 0x2049), (0x2122, 0x2122), (0x2139, 0x2139), (0x2194, 0x2199),
      (0x21a9, 0x21aa), (0x231a, 0x231b), (0x2328, 0x2328), (0x23cf, 0x23cf), (0x23e9, 0x23f3),
      (0x23f8, 0x23fa), (0x24c2, 0x24c2), (0x25aa, 0x25ab), (0x25b6, 0x25b6), (0x25c0, 0x25c0),
      (0x25fb, 0x25fe), (0x2600, 0x2604), (0x260e, 0x260e), (0x2611, 0x2611), (0x2614, 0x2615),
      (0x2618, 0x2618), (0x261d, 0x261d), (0x2620, 0x2620), (0x2622, 0x2623), (0x2626, 0x2626),
      (0x262a, 0x262a), (0x262e, 0x262f), (0x2638, 0x263a), (0x2640, 0x2640), (0x2642, 0x2642),
      (0x2648, 0x2653), (0x265f, 0x2660), (0x2663, 0x2663), (0x2665, 0x2666), (0x2668, 0x2668),
      (0x267b, 0x267b), (0x267e, 0x267f), (0x2692, 0x2697), (0x2699, 0x2699), (0x269b, 0x269c),
      (0x26a0, 0x26a1), (0x26a7, 0x26a7), (0x26aa, 0x26ab), (0x26b0, 0x26b1), (0x26bd, 0x26be),
      (0x26c4, 0x26c5), (0x26c8, 0x26c8), (0x26ce, 0x26cf), (0x26d1, 0x26d1), (0x26d3, 0x26d4),
      (0x26e9, 0x26ea), (0x26f0, 0x26f5), (0x26f7, 0x26fa), (0x26fd, 0x26fd), (0x2702, 0x2702),
      (0x2705, 0x2705), (0x2708, 0x270d), (0x270f, 0x270f), (0x2712, 0x2712), (0x2714, 0x2714),
      (0x2716, 0x2716), (0x271d, 0x271d), (0x2721, 0x2721), (0x2728, 0x2728), (0x2733, 0x2734),
      (0x2744, 0x2744), (0x2747, 0x2747), (0x274c, 0x274c), (0x274e, 0x274e), (0x2753, 0x2755),
      (0x2757, 0x2757), (0x2763, 0x2764), (0x2795, 0x2797), (0x27a1, 0x27a1), (0x27b0, 0x27b0),
      (0x27bf, 0x27bf), (0x2934, 0x2935), (0x2b05, 0x2b07), (0x2b1b, 0x2b1c), (0x2b50, 0x2b50),
      (0x2b55, 0x2b55), (0x3030, 0x3030), (0x303d, 0x303d), (0x3297, 0x3297), (0x3299, 0x3299),
      (0x1f004, 0x1f004), (0x1f0cf, 0x1f0cf), (0x1f170, 0x1f171), (0x1f17e, 0x1f17f),
      (0x1f18e, 0x1f18e), (0x1f191, 0x1f19a), (0x1f1e6, 0x1f1ff), (0x1f201, 0x1f202),
      (0x1f21a, 0x1f21a), (0x1f22f, 0x1f22f), (0x1f232, 0x1f23a), (0x1f250, 0x1f251),
      (0x1f300, 0x1f321), (0x1f324, 0x1f393), (0x1f396, 0x1f397), (0x1f399, 0x1f39b),
      (0x1f39e, 0x1f3f0), (0x1f3f3, 0x1f3f5), (0x1f3f7, 0x1f4fd), (0x1f4ff, 0x1f53d),
      (0x1f549, 0x1f54e), (0x1f550, 0x1f567), (0x1f56f, 0x1f570), (0x1f573, 0x1f57a),
      (0x1f587, 0x1f587), (0x1f58a, 0x1f58d), (0x1f590, 0x1f590), (0x1f595, 0x1f596),
      (0x1f5a4, 0x1f5a5), (0x1f5a8, 0x1f5a8), (0x1f5b1, 0x1f5b2), (0x1f5bc, 0x1f5bc),
      (0x1f5c2, 0x1f5c4), (0x1f5d1, 0x1f5d3), (0x1f5dc, 0x1f5de), (0x1f5e1, 0x1f5e1),
      (0x1f5e3, 0x1f5e3), (0x1f5e8, 0x1f5e8), (0x1f5ef, 0x1f5ef), (0x1f5f3, 0x1f5f3),
      (0x1f5fa, 0x1f64f), (0x1f680, 0x1f6c5), (0x1f6cb, 0x1f6d2), (0x1f6d5, 0x1f6d7),
      (0x1f6dc, 0x1f6e5), (0x1f6e9, 0x1f6e9), (0x1f6eb, 0x1f6ec), (0x1f6f0, 0x1f6f0),
      (0x1f6f3, 0x1f6fc), (0x1f7e0, 0x1f7eb), (0x1f7f0, 0x1f7f0), (0x1f90c, 0x1f93a),
      (0x1f93c, 0x1f945), (0x1f947, 0x1f9ff), (0x1fa70, 0x1fa7c), (0x1fa80, 0x1fa88),
      (0x1fa90, 0x1fabd), (0x1fabf, 0x1fac5), (0x1face, 0x1fadb), (0x1fae0, 0x1fae8),
      (0x1faf0, 0x1faf8)]
  | _ => none

/-- A name in lower case and without blanks, underscores and hyphens; a leading `is` is dropped. -/
def looseName (cs : List Char) : String :=
  let plain := (cs.filter fun c => !(c == ' ' || c == '_' || c == '-')).map Char.toLower
  match plain with
  | 'i' :: 's' :: c :: rest => String.ofList (c :: rest)
  | other => String.ofList other

/-- The set that a name in braces stands for. -/
def namedSet? (cs : List Char) : Option CharSet :=
  let whole (rs : Option Category.Ranges) (negated anyCase : Bool) : Option CharSet :=
    rs.map fun rs => (CharSet.ranges rs anyCase).signed negated
  let separator := cs.find? fun c => c == '=' || c == ':' || c == '!'
  match separator with
  | none =>
    let name := looseName cs
    if name = "c" ∨ name = "other" then some (.compl (.ranges
      (Category.letter ++ Category.mark ++ Category.number ++ Category.punctuation
        ++ Category.symbol ++ Category.separator) false))
    else if name = "cn" ∨ name = "unassigned" then some (.compl (.ranges Category.assigned false))
    else whole ((category? name).orElse fun _ => (property? name).orElse fun _ => script? name)
      false false
  | some sep =>
    match Text.splitOnceChars? sep cs with
    | none => none
    | some (key, value) =>
      let (key, negated) := match key.reverse, value with
        | _, '=' :: _ => (key, true)
        | _, _ => (key, false)
      let value := match value with
        | '=' :: rest => rest
        | v => v
      let key := looseName key
      if key = "gc" ∨ key = "generalcategory" then whole (category? (looseName value)) negated false
      else if key = "sc" ∨ key = "script" ∨ key = "scx" ∨ key = "scriptextensions" then
        whole (script? (looseName value)) negated false
      else none

/-- The same set with case variants. -/
def CharSet.withAnyCase : CharSet → CharSet
  | .ranges rs _ => .ranges rs true
  | .compl s => .compl s.withAnyCase
  | .union a b => .union a.withAnyCase b.withAnyCase
  | .inter a b => .inter a.withAnyCase b.withAnyCase
  | s => s

end SuiteRunner.Regex
