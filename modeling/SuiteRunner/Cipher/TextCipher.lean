import SuiteRunner.Cipher.Sealing
import SuiteRunner.Error
import SuiteRunner.Text.Base64
import SuiteRunner.Text.Blank
import SuiteRunner.Text.Utf8

/-!
  SuiteRunner.Cipher.TextCipher
  ────────────────────────────────
  **SECRET TEXTS.**

  An encrypted text is base64 of the nonce, the encrypted bytes and their tag.  Blank characters
  around it do not matter.
-/

namespace SuiteRunner

/-- A cipher for texts: a key of thirty-two bytes. -/
structure TextCipher where
  key : List UInt8
  length_key : key.length = 32

/-- A nonce: twelve bytes that are used once. -/
structure Nonce where
  bytes : List UInt8
  length_bytes : bytes.length = 12

namespace TextCipher

/-- The environment variable with the key. -/
def keyVariable : String := "TESTFORGE_ENCRYPTION_KEY"

/-- The cipher with a key. -/
def ofKey (key : List UInt8) : Except Failure TextCipher :=
  if h : key.length = 32 then .ok ⟨key, h⟩
  else .error (.cipher ("Invalid key length " ++ toString key.length ++ " (expected 32)"))

/-- The bytes of a base64 text with blanks around it. -/
def bytesOfText (what text : String) : Except Failure (List UInt8) :=
  match Base64.decode? (Text.trim text) with
  | some bytes => .ok bytes
  | none => .error (.cipher ("Invalid " ++ what ++ " encoding: not base64"))

/-- The cipher with a key given as base64. -/
def ofText (key : String) : Except Failure TextCipher := bytesOfText "key" key >>= ofKey

/-- The cipher with the key of the environment. -/
def ofVariables (env : String → Option String) : Except Failure TextCipher :=
  match env keyVariable with
  | some key => ofText key
  | none => .error (.invalidConfig (keyVariable ++ " is not set"))

/-- **Encrypt a text.** -/
def encrypt (c : TextCipher) (nonce : Nonce) (text : String) : String :=
  Base64.encode (nonce.bytes ++ Cipher.sealBytes c.key nonce.bytes (Utf8.encode text))

/-- **Decrypt a text.** -/
def decrypt (c : TextCipher) (text : String) : Except Failure String := do
  let data ← bytesOfText "ciphertext" text
  if data.length ≤ 12 then .error (.cipher "Ciphertext too short")
  else
    match Cipher.openBytes? c.key (data.take 12) (data.drop 12) with
    | none => .error (.cipher "aead::Error")
    | some plain =>
      match Utf8.decode plain with
      | .ok s => .ok s
      | .error f => .error (.cipher f.message)

end TextCipher

end SuiteRunner
