import TaosAdapter.Rest.Auth
import Mathlib.Logic.Equiv.Basic

/-!
Owns: that a token gives back the credentials it was made of, and that a request
with it is let in with them, whatever the caches went through before.

Both caches only hold what would be computed again: the token of the message
that is the key, and what the decoding of the header says. The message has 24
bytes for each field, so a field of 24 bytes has no NUL behind it and ends where
the buffer does.
-/

namespace TaosAdapter.Rest

open Lib List

structure Caches.Sound (cipher : BlockCipher) (caches : Caches) : Prop where
  token : ∀ b token, caches.tokenCache b = some token → token = desToken cipher b
  auth : ∀ auth info, caches.authCache auth = some info → decodeHeader cipher auth = .ok info

section

variable {unicode : UnicodeTrim} {cipher : BlockCipher} {caches : Caches}

theorem Caches.sound_empty : Caches.empty.Sound cipher := ⟨nofun, nofun⟩

variable {other key : Bytes} {Value : Type}

theorem setDefault_eq_some {cache : Cache Value} {value found : Value}
    (entry : cache.setDefault key value other = some found) :
    (other = key ∧ found = value) ∨ cache other = some found := by
  by_cases same : other = key
  · subst same
    rw [Cache.setDefault, Function.update_self] at entry
    exact .inl ⟨rfl, (Option.some.inj entry).symm⟩
  · rw [Cache.setDefault, Function.update_of_ne same] at entry
    exact .inr entry

theorem expire_eq_some {cache : Cache Value} {found : Value}
    (entry : cache.expire key other = some found) : cache other = some found := by
  by_cases same : other = key
  · subst same
    rw [Cache.expire, Function.update_self] at entry
    cases entry
  · rwa [Cache.expire, Function.update_of_ne same] at entry

section

variable (sound : caches.Sound cipher)

include sound

theorem makeToken_sound (b : Bytes) : (makeToken cipher caches b).2.Sound cipher := by
  refine ⟨fun other token entry => ?_, sound.auth⟩
  rcases setDefault_eq_some entry with ⟨rfl, rfl⟩ | entry
  · rfl
  · exact sound.token other token entry

theorem cachedToken_sound (b : Bytes) : (cachedToken cipher caches b).2.Sound cipher := by
  unfold cachedToken
  split
  · exact sound
  · exact makeToken_sound sound b

theorem encodeDes_sound (user pass : Bytes) :
    (encodeDes cipher caches user pass).2.Sound cipher := by
  unfold encodeDes
  split
  · exact sound
  · exact cachedToken_sound sound _

theorem checkHeader_sound (auth : Bytes) : (checkHeader cipher caches auth).2.Sound cipher := by
  unfold checkHeader
  split
  next info decoded =>
    refine ⟨sound.token, fun other found entry => ?_⟩
    rcases setDefault_eq_some entry with ⟨rfl, rfl⟩ | entry
    · exact decoded
    · exact sound.auth other found entry
  next => exact sound

theorem cachedHeader_sound (auth : Bytes) : (cachedHeader cipher caches auth).2.Sound cipher := by
  unfold cachedHeader
  split
  · exact sound
  · exact checkHeader_sound sound auth

theorem checkAuth_sound (header : Bytes) :
    (checkAuth unicode cipher caches header).2.Sound cipher := by
  unfold checkAuth
  split
  · exact sound
  · exact cachedHeader_sound sound _

theorem authStep_sound (event : AuthEvent) :
    (authStep unicode cipher caches event).Sound cipher := by
  cases event with
  | token user pass => exact encodeDes_sound sound user pass
  | lateToken b => exact makeToken_sound sound b
  | auth header => exact checkAuth_sound sound header
  | lateAuth auth => exact checkHeader_sound sound auth
  | expireToken b =>
    exact ⟨fun other token entry => sound.token other token (expire_eq_some entry), sound.auth⟩
  | expireAuth auth =>
    exact ⟨sound.token, fun other info entry => sound.auth other info (expire_eq_some entry)⟩

end

theorem cachesAfter_sound (history : List AuthEvent) :
    (cachesAfter unicode cipher history).Sound cipher := by
  unfold cachesAfter
  generalize start : Caches.empty = caches
  have sound : caches.Sound cipher := start ▸ Caches.sound_empty
  clear start
  induction history generalizing caches with
  | nil => exact sound
  | cons event rest ih => exact ih _ (authStep_sound sound event)

theorem encodeDes_eq (sound : caches.Sound cipher) {user pass : Bytes}
    (shortUser : user.length ≤ 24) (shortPassword : pass.length ≤ 24) :
    (encodeDes cipher caches user pass).1 = .ok (desToken cipher (desMessage user pass)) := by
  have token : ∀ b, (cachedToken cipher caches b).1 = desToken cipher b := by
    intro b
    unfold cachedToken
    split
    next token found => exact sound.token b token found
    next => rfl
  rw [encodeDes, if_neg (by omega)]
  exact congrArg Except.ok (token _)

theorem checkAuth_eq (sound : caches.Sound cipher) {header : Bytes} (given : header.length ≠ 0) :
    (checkAuth unicode cipher caches header).1 =
      decodeHeader cipher (trimSpace unicode header) := by
  rw [checkAuth, if_neg given]
  unfold cachedHeader
  split
  next info found => exact (sound.auth _ info found).symm
  next =>
    unfold checkHeader
    split
    next info decoded => exact decoded.symm
    next error decoded => exact decoded.symm

end

structure Name where
  bytes : Bytes
  noNul : 0 ∉ bytes
  short : bytes.length ≤ 24

def zeros (count : Nat) : Bytes := List.replicate count 0

def Name.padded (name : Name) : Bytes := name.bytes ++ zeros (24 - name.bytes.length)

@[simp] theorem Name.length_padded (name : Name) : name.padded.length = 24 := by
  have short := name.short
  rw [Name.padded, length_append, zeros, length_replicate]
  omega

theorem desMessage_eq (user pass : Name) :
    desMessage user.bytes pass.bytes = user.padded ++ pass.padded := by
  have shortUser := user.short
  have shortPassword := pass.short
  have first : poke (List.replicate 48 0) 0 user.bytes = user.padded ++ zeros 24 := by
    rw [poke_eq (by rw [length_replicate]; omega), take_zero, nil_append, Nat.zero_add,
      drop_replicate, Name.padded, append_assoc, zeros, zeros, replicate_append_replicate]
    congr 2
    omega
  have room : zeros 24 = zeros pass.bytes.length ++ zeros (24 - pass.bytes.length) := by
    rw [zeros, zeros, zeros, replicate_append_replicate]
    congr 1
    omega
  have second := poke_append user.padded (zeros (24 - pass.bytes.length))
    (show pass.bytes.length = (zeros pass.bytes.length).length by simp [zeros])
  rw [user.length_padded, ← room] at second
  rw [desMessage, first, second]
  rfl

theorem readField_eq (b : Bytes) : readField b = b.takeWhile (· ≠ 0) := by
  have stripped : ∀ b, readString b = (b.takeWhile (· ≠ 0), false) ∨
      readString b = (b.takeWhile (· ≠ 0) ++ [0], true) := by
    intro b
    induction b with
    | nil => exact .inl rfl
    | cons byte rest ih =>
      rw [readString]
      by_cases nul : byte = 0
      · right
        simp [nul]
      · rw [if_neg nul]
        rcases ih with read | read
        · left
          simp [read, nul]
        · right
          simp [read, nul]
  rcases stripped b with read | read
  · simp [readField, read]
  · simp [readField, read]

theorem readField_padded (name : Name) : readField name.padded = name.bytes := by
  rw [readField_eq, Name.padded, takeWhile_append_of_pos]
  · have none : (zeros (24 - name.bytes.length)).takeWhile (· ≠ 0) = [] := by
      cases 24 - name.bytes.length with
      | zero | succ => rfl
    rw [none, List.append_nil]
  · intro byte mem
    have notNul : byte ≠ 0 := fun same => name.noNul (same ▸ mem)
    simpa using notNul

section

variable {cipher : BlockCipher} {b : Bytes}

theorem length_desBlock {i : Nat} (long : b.length = 48) (inside : i < 6) :
    (desBlock b i).length = 8 := by
  rw [desBlock, length_take, length_drop]
  omega

theorem desBlock_encrypted (long : b.length = 48) {i : Nat} (inside : i < 6) :
    desBlock ((List.range 6).flatMap fun i => cipher.encrypt (desBlock b i)) i =
      cipher.encrypt (desBlock b i) := by
  have uniform : ∀ piece ∈ (List.range 6).map (fun i => cipher.encrypt (desBlock b i)),
      piece.length = 8 := by
    intro piece mem
    obtain ⟨j, inRange, rfl⟩ := mem_map.mp mem
    exact cipher.length_encrypt _ (length_desBlock long (mem_range.mp inRange))
  have found : ((List.range 6).map fun i => cipher.encrypt (desBlock b i))[i]? =
      some (cipher.encrypt (desBlock b i)) := by
    rw [List.getElem?_map, List.getElem?_range inside]
    rfl
  obtain ⟨_, content⟩ := (holds_self _).piece_uniform 8 uniform found
  rw [cipher.length_encrypt _ (length_desBlock long inside)] at content
  rw [desBlock, flatMap_def, ← content]
  congr 2
  omega

theorem length_encrypted (long : b.length = 48) :
    ((List.range 6).flatMap fun i => cipher.encrypt (desBlock b i)).length = 48 := by
  rw [flatMap_def, length_flatten_uniform 8]
  · simp
  · intro piece mem
    obtain ⟨j, inRange, rfl⟩ := mem_map.mp mem
    exact cipher.length_encrypt _ (length_desBlock long (mem_range.mp inRange))

theorem desBlock_append (b : Bytes) (i : Nat) :
    desBlock b i ++ desBlock b (i + 1) ++ desBlock b (i + 2) = (b.drop (i * 8)).take 24 := by
  rw [show 24 = 8 + 8 + 8 from rfl, take_add, take_add, drop_drop, drop_drop,
    desBlock, desBlock, desBlock, Nat.add_mul, Nat.add_mul]

theorem decodeDes_desToken {front back : Bytes} (longFront : front.length = 24)
    (longBack : back.length = 24) :
    decodeDes cipher (desToken cipher (front ++ back)) = .ok (readField front, readField back) := by
  have long : (front ++ back).length = 48 := by simp [longFront, longBack]
  have decrypted : ∀ i < 6, cipher.decrypt (desBlock ((List.range 6).flatMap fun i =>
      cipher.encrypt (desBlock (front ++ back) i)) i) = desBlock (front ++ back) i := by
    intro i inside
    rw [desBlock_encrypted long inside, cipher.decrypt_encrypt _ (length_desBlock long inside)]
  have first := desBlock_append (front ++ back) 0
  have second := desBlock_append (front ++ back) 3
  rw [Nat.zero_mul, drop_zero, take_left' longFront] at first
  rw [drop_left' longFront, take_of_length_le (by omega)] at second
  simp only [decodeDes, desToken, base64Decode_base64Encode]
  rw [if_neg (not_not.mpr (length_encrypted long))]
  -- The buffer holds the front after block 2 and the back after block 5.
  have loop : (List.range 6).foldl (decryptBlock cipher ((List.range 6).flatMap fun i =>
      cipher.encrypt (desBlock (front ++ back) i))) ([], []) = (back, readField front) := by
    generalize (List.range 6).flatMap (fun i => cipher.encrypt (desBlock (front ++ back) i)) = d
      at decrypted
    rw [append_assoc] at first second
    simp only [range_succ, range_zero, nil_append, cons_append, foldl_cons, foldl_nil, decryptBlock]
    simp [decrypted, first, second]
  rw [loop]

theorem decodeDes_of_names (user pass : Name) :
    decodeDes cipher (desToken cipher (desMessage user.bytes pass.bytes)) =
      .ok (user.bytes, pass.bytes) := by
  rw [desMessage_eq, decodeDes_desToken user.length_padded pass.length_padded,
    readField_padded, readField_padded]

theorem base64_plain {char : UInt8} (isChar : IsBase64 char) :
    asciiSpace char = false ∧ char.toNat < 128 := by
  have all : ∀ code : Fin 256, ((base64Value (UInt8.ofNat code)).isSome = true ∨
      UInt8.ofNat code = base64Pad) →
        asciiSpace (UInt8.ofNat code) = false ∧ (UInt8.ofNat code).toNat < 128 := by
    decide +kernel
  have here := all ⟨char.toNat, char.toNat_lt⟩
  rw [UInt8.ofNat_toNat] at here
  exact here isChar

variable (unicode : UnicodeTrim)

theorem trimRight_of_plain {c : UInt8} {rest : Bytes} (noSpace : asciiSpace c = false)
    (isAscii : c.toNat < 128) : trimRight unicode (c :: rest) = (c :: rest).reverse := by
  rw [trimRight, dropWhile_cons_of_neg (by rw [noSpace]; decide)]
  exact if_neg (by omega)

theorem trimSpace_of_plain {first last : UInt8} {middle : Bytes}
    (noSpace : asciiSpace first = false) (isAscii : first.toNat < 128)
    (noSpaceLast : asciiSpace last = false) (isAsciiLast : last.toNat < 128) :
    trimSpace unicode (first :: (middle ++ [last])) = first :: (middle ++ [last]) := by
  rw [trimSpace, dropWhile_cons_of_neg (by rw [noSpace]; decide)]
  show (if 128 ≤ first.toNat then _ else _) = _
  rw [if_neg (by omega)]
  have reversed : (first :: (middle ++ [last])).reverse = last :: (middle.reverse ++ [first]) := by
    simp
  rw [reversed, trimRight_of_plain unicode noSpaceLast isAsciiLast, ← reversed, reverse_reverse]

theorem trimSpace_token {text : Bytes} (given : text ≠ []) (isBase64 : ∀ char ∈ text, IsBase64 char)
    : trimSpace unicode (ascii "Taosd " ++ text) = ascii "Taosd " ++ text := by
  obtain ⟨front, last, rfl⟩ := eq_nil_or_concat text |>.resolve_left given
  obtain ⟨noSpace, isAscii⟩ := base64_plain (isBase64 last (by simp))
  have shape : ascii "Taosd " ++ (front ++ [last]) =
      84 :: ((ascii "aosd " ++ front) ++ [last]) := by
    rw [append_assoc]
    rfl
  rw [concat_eq_append, shape]
  exact trimSpace_of_plain unicode (by decide) (by decide) noSpace isAscii

theorem decodeHeader_token {token user pass : Bytes}
    (decoded : decodeDes cipher token = .ok (user, pass)) (given : token ≠ [])
    (givenUser : user ≠ []) (givenPassword : pass ≠ []) :
    decodeHeader cipher (ascii "Taosd " ++ token) = .ok ⟨user, pass⟩ := by
  have long : (ascii "Taosd " ++ token).length > 6 := by
    have pos := length_pos_iff.mpr given
    rw [length_append]
    exact Nat.lt_add_of_pos_right pos
  have rest : (ascii "Taosd " ++ token).drop 6 = token := drop_left' rfl
  have notBasic : ¬ ((ascii "Basic").isPrefixOf (ascii "Taosd " ++ token) = true ∧
      (ascii "Taosd " ++ token).length > 6) := fun both => nomatch both.1
  rw [decodeHeader, if_neg notBasic, if_pos ⟨rfl, long⟩, rest, decoded]
  exact if_neg (by simp [givenUser, givenPassword])

end

/-- A token gives its credentials back, is the token of no others, and lets a
request in with them, whatever requests and expiries came before. -/
theorem token_gives_back (unicode : UnicodeTrim) (cipher : BlockCipher) (user password : Name)
    (history : List AuthEvent) :
    ∃ token, (encodeDes cipher (cachesAfter unicode cipher history) user.bytes
        password.bytes).1 = .ok token ∧
      decodeDes cipher token = .ok (user.bytes, password.bytes) ∧
      (∀ (other secret : Name) (elsewhere : List AuthEvent),
        (encodeDes cipher (cachesAfter unicode cipher elsewhere) other.bytes secret.bytes).1 =
          .ok token → other.bytes = user.bytes ∧ secret.bytes = password.bytes) ∧
      (user.bytes ≠ [] → password.bytes ≠ [] → ∀ later : List AuthEvent,
        (checkAuth unicode cipher (cachesAfter unicode cipher later)
          (ascii "Taosd " ++ token)).1 = .ok ⟨user.bytes, password.bytes⟩) := by
  have decoded : decodeDes cipher (desToken cipher (desMessage user.bytes password.bytes)) =
    .ok (user.bytes, password.bytes) := decodeDes_of_names user password
  refine ⟨_, encodeDes_eq (cachesAfter_sound history) user.short password.short, decoded,
    fun other secret elsewhere same => ?_, fun givenUser givenPassword later => ?_⟩
  · rw [encodeDes_eq (cachesAfter_sound elsewhere) other.short secret.short] at same
    have others : decodeDes cipher (desToken cipher (desMessage other.bytes secret.bytes)) =
      .ok (other.bytes, secret.bytes) := decodeDes_of_names other secret
    rw [Except.ok.inj same, decoded] at others
    have pair := Prod.mk.inj (Except.ok.inj others)
    exact ⟨pair.1.symm, pair.2.symm⟩
  · have given : (ascii "Taosd " ++
        desToken cipher (desMessage user.bytes password.bytes)).length ≠ 0 := by
      rw [length_append]
      exact Nat.ne_of_gt (Nat.lt_of_lt_of_le (show 0 < (ascii "Taosd ").length by decide)
        (Nat.le_add_right _ _))
    have isToken : desToken cipher (desMessage user.bytes password.bytes) ≠ [] := by
      intro empty
      rw [empty] at decoded
      cases decoded
    rw [checkAuth_eq (cachesAfter_sound later) given,
      trimSpace_token unicode isToken fun char => isBase64_of_mem_base64Encode]
    exact decodeHeader_token decoded isToken givenUser givenPassword

theorem length_swap {plain text : Bytes} (same : plain.length = text.length) (block : Bytes) :
    (Equiv.swap plain text block).length = block.length := by
  rw [Equiv.swap_apply_def]
  split_ifs with isPlain isText
  · rw [isPlain, same]
  · rw [isText, same]
  · rfl

/-- What DES makes of the blocks of one message; no other block is changed. -/
def desBlocks : Bytes ≃ Bytes :=
  (Equiv.swap (List.replicate 8 97) [209, 175, 86, 234, 237, 253, 227, 102]).trans
    ((Equiv.swap (98 :: List.replicate 7 0) [198, 185, 89, 174, 133, 97, 157, 105]).trans
      (Equiv.swap (List.replicate 8 0) [218, 242, 167, 109, 53, 153, 173, 56]))

def messageCipher : BlockCipher where
  encrypt := desBlocks
  decrypt := desBlocks.symm
  length_encrypt block length := by
    rw [desBlocks, Equiv.trans_apply, Equiv.trans_apply, length_swap (by rfl),
      length_swap (by rfl), length_swap (by rfl), length]
  decrypt_encrypt block _ := desBlocks.symm_apply_apply block

/-- A user of 24 bytes, whose token expires before it is asked for again. -/
theorem token_gives_back_full_length :
    ∃ token, (encodeDes messageCipher (cachesAfter ⟨id, id⟩ messageCipher
        [.token (List.replicate 24 97) [98], .expireToken (desMessage (List.replicate 24 97) [98])])
        (List.replicate 24 97) [98]).1 = .ok token ∧
      (checkAuth ⟨id, id⟩ messageCipher .empty (ascii "Taosd " ++ token)).1 =
        .ok ⟨List.replicate 24 97, [98]⟩ := by
  obtain ⟨token, made, _, _, letIn⟩ := token_gives_back ⟨id, id⟩ messageCipher
    ⟨List.replicate 24 97, by decide, by decide⟩ ⟨[98], by decide, by decide⟩
    [.token (List.replicate 24 97) [98], .expireToken (desMessage (List.replicate 24 97) [98])]
  exact ⟨token, made, letIn (by decide) (by decide) []⟩

end TaosAdapter.Rest
