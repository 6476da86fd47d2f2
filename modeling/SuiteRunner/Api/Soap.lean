import SuiteRunner.Text.LetterCase
import SuiteRunner.Text.SortedMap
import SuiteRunner.Text.Split

/-!
  SuiteRunner.Api.Soap
  ────────────────────────────────
  **WHICH REQUESTS ARE SOAP REQUESTS.**

  One header is enough: an action header, or a content type that mentions XML or SOAP.
-/

namespace SuiteRunner

/-- Whether one header makes a request a SOAP request. -/
def isSoapHeader (name value : String) : Bool :=
  let name := LetterCase.asciiLower name
  let value := LetterCase.asciiLower value
  name == "soapaction"
    || (name == "content-type" && (Text.contains value "xml" || Text.contains value "soap"))

/-- **Whether headers make a request a SOAP request.** -/
def isSoap (headers : TextMap) : Bool := headers.entries.any fun (k, v) => isSoapHeader k v

end SuiteRunner
