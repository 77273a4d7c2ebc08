import TaosAdapter.Lib.Base64
import TaosAdapter.Lib.Json

/-!
Contract: `EncodeDes`, `DecodeDes` and `CheckAuth` of `controller/rest/auth.go`,
with `DecodeBasic` of `tools/basic.go`.

Owns: the padded message of a token, its six blocks, the way back through a
buffer that is emptied half-way, the header of a request, the two caches, and
histories of requests during which entries expire.

DES is a block cipher with its inverse. The part of `strings.TrimSpace` behind
its loop over ASCII is a parameter. The buffers come from a pool and are empty.
-/

namespace TaosAdapter.Rest

open Lib

/-- `des.NewCipher(desKey)` -/
structure BlockCipher where
  encrypt : Bytes → Bytes
  decrypt : Bytes → Bytes
  length_encrypt : ∀ block, block.length = 8 → (encrypt block).length = 8
  decrypt_encrypt : ∀ block, block.length = 8 → decrypt (encrypt block) = block

def desBlock (b : Bytes) (i : Nat) : Bytes := (b.drop (i * 8)).take 8

/-- `ReadString(0)`: the text up to the first NUL and with it, and whether there is
one. -/
def readString : Bytes → Bytes × Bool
  | [] => ([], false)
  | byte :: rest =>
    if byte = 0 then ([byte], true)
    else
      let (text, found) := readString rest
      (byte :: text, found)

def readField (b : Bytes) : Bytes :=
  let (text, found) := readString b
  if found then text.take (text.length - 1) else text

inductive DesError where
  /-- The error of `DecodeString`. -/
  | corruptInput
  | wrongDesLength
deriving DecidableEq

section

variable (cipher : BlockCipher)

/-- The iteration for block `i`: the buffer, and the user once it is read. -/
def decryptBlock (d : Bytes) (state : Bytes × Bytes) (i : Nat) : Bytes × Bytes :=
  let b := state.1 ++ cipher.decrypt (desBlock d i)
  if i = 2 then ([], readField b) else (b, state.2)

def decodeDes (auth : Bytes) : Except DesError (Bytes × Bytes) :=
  match base64Decode auth with
  | none => .error .corruptInput
  | some d =>
    if d.length ≠ 48 then .error .wrongDesLength
    else
      let (b, user) := (List.range 6).foldl (decryptBlock cipher d) ([], [])
      .ok (user, readField b)

def desMessage (user password : Bytes) : Bytes :=
  poke (poke (List.replicate 48 0) 0 user) 24 password

def desToken (b : Bytes) : Bytes :=
  base64Encode ((List.range 6).flatMap fun i => cipher.encrypt (desBlock b i))

end

/-- `strings.TrimFunc` and `strings.TrimRightFunc` with `unicode.IsSpace`. -/
structure UnicodeTrim where
  trimFunc : Bytes → Bytes
  trimRightFunc : Bytes → Bytes

def asciiSpace (c : UInt8) : Bool :=
  c = 9 || c = 10 || c = 11 || c = 12 || c = 13 || c = 32

/-- The loop from the end, over the bytes in reverse. -/
def trimRight (unicode : UnicodeTrim) (reversed : Bytes) : Bytes :=
  match reversed.dropWhile asciiSpace with
  | [] => []
  | c :: rest =>
    if 128 ≤ c.toNat then unicode.trimRightFunc (c :: rest).reverse else (c :: rest).reverse

def trimSpace (unicode : UnicodeTrim) (s : Bytes) : Bytes :=
  match s.dropWhile asciiSpace with
  | [] => []
  | c :: rest =>
    if 128 ≤ c.toNat then unicode.trimFunc (c :: rest) else trimRight unicode (c :: rest).reverse

inductive AuthError where
  | noAuthInfo
  | invalidAuthType
  | invalidBasicAuth
  | invalidTaosdAuth
deriving DecidableEq

def AuthError.code : AuthError → Nat
  | .noAuthInfo => 0x1105
  | .invalidAuthType => 0x1122
  | .invalidBasicAuth => 0x1124
  | .invalidTaosdAuth => 0x1125

structure AuthInfo where
  user : Bytes
  password : Bytes
deriving DecidableEq

/-- The user and the password that are set, or the error that is answered. -/
abbrev Checked := Except AuthError AuthInfo

/-- `strings.SplitN(b, ":", 2)` with two parts, or the error. -/
def splitCredentials : Bytes → Option (Bytes × Bytes)
  | [] => none
  | byte :: rest =>
    if byte = 58 then some ([], rest)
    else do
      let (user, password) ← splitCredentials rest
      some (byte :: user, password)

def decodeBasic (auth : Bytes) : Option (Bytes × Bytes) := do
  let b ← base64Decode auth
  splitCredentials b

def unlessEmpty (error : AuthError) : Option (Bytes × Bytes) → Checked
  | none => .error error
  | some (user, password) =>
    if user.length = 0 ∨ password.length = 0 then .error error else .ok ⟨user, password⟩

def decodeHeader (cipher : BlockCipher) (auth : Bytes) : Checked :=
  if (ascii "Basic").isPrefixOf auth ∧ auth.length > 6 then
    unlessEmpty .invalidBasicAuth (decodeBasic (auth.drop 6))
  else if (ascii "Taosd").isPrefixOf auth ∧ auth.length > 6 then
    unlessEmpty .invalidTaosdAuth (decodeDes cipher (auth.drop 6)).toOption
  else .error .invalidAuthType

/-- The entries that have not expired. -/
abbrev Cache (Value : Type) := Bytes → Option Value

def Cache.setDefault {Value : Type} (cache : Cache Value) (key : Bytes) (value : Value) :
    Cache Value :=
  Function.update cache key (some value)

def Cache.expire {Value : Type} (cache : Cache Value) (key : Bytes) : Cache Value :=
  Function.update cache key none

structure Caches where
  tokenCache : Cache Bytes
  authCache : Cache AuthInfo

def Caches.empty : Caches := ⟨fun _ => none, fun _ => none⟩

section

variable (unicode : UnicodeTrim) (cipher : BlockCipher) (caches : Caches)

/-- A token that was not found is made and kept. -/
def makeToken (b : Bytes) : Bytes × Caches :=
  let data := desToken cipher b
  (data, { caches with tokenCache := caches.tokenCache.setDefault b data })

def cachedToken (b : Bytes) : Bytes × Caches :=
  match caches.tokenCache b with
  | some token => (token, caches)
  | none => makeToken cipher caches b

def encodeDes (user password : Bytes) : Except String Bytes × Caches :=
  if user.length > 24 ∨ password.length > 24 then
    (.error "wrong user or password length", caches)
  else
    let (token, caches) := cachedToken cipher caches (desMessage user password)
    (.ok token, caches)

/-- A header that was not found is decoded, and kept if it is valid. -/
def checkHeader (auth : Bytes) : Checked × Caches :=
  match decodeHeader cipher auth with
  | .ok info => (.ok info, { caches with authCache := caches.authCache.setDefault auth info })
  | .error error => (.error error, caches)

def cachedHeader (auth : Bytes) : Checked × Caches :=
  match caches.authCache auth with
  | some info => (.ok info, caches)
  | none => checkHeader cipher caches auth

def checkAuth (header : Bytes) : Checked × Caches :=
  if header.length = 0 then (.error .noAuthInfo, caches)
  else cachedHeader cipher caches (trimSpace unicode header)

/-- A late request looked for its entry earlier, and comes to an end now. -/
inductive AuthEvent where
  | token (user password : Bytes)
  | lateToken (b : Bytes)
  | auth (header : Bytes)
  | lateAuth (auth : Bytes)
  | expireToken (b : Bytes)
  | expireAuth (auth : Bytes)

def authStep : AuthEvent → Caches
  | .token user password => (encodeDes cipher caches user password).2
  | .lateToken b => (makeToken cipher caches b).2
  | .auth header => (checkAuth unicode cipher caches header).2
  | .lateAuth auth => (checkHeader cipher caches auth).2
  | .expireToken b => { caches with tokenCache := caches.tokenCache.expire b }
  | .expireAuth auth => { caches with authCache := caches.authCache.expire auth }

def cachesAfter (history : List AuthEvent) : Caches :=
  history.foldl (authStep unicode cipher) .empty

end

end TaosAdapter.Rest
