import DongleRescue.Data.Numerals

namespace DongleRescue.Data.Sha256

/-! The SHA-256 digest (FIPS 180-4) of the UTF-8 encoding of a text, over natural
numbers reduced modulo the word size, so that the kernel can evaluate it. -/

def utf8 (c : Char) : List Nat :=
  let n := c.toNat
  if n < 0x80 then [n]
  else if n < 0x800 then [0xC0 + n / 0x40, 0x80 + n % 0x40]
  else if n < 0x10000 then [0xE0 + n / 0x1000, 0x80 + n / 0x40 % 0x40, 0x80 + n % 0x40]
  else [0xF0 + n / 0x40000, 0x80 + n / 0x1000 % 0x40, 0x80 + n / 0x40 % 0x40, 0x80 + n % 0x40]

def wordSize : Nat := 4294967296

def rotate (x n : Nat) : Nat := (x >>> n ||| x <<< (32 - n)) % wordSize

def constants : List Nat := [
  0x428a2f98, 0x71374491, 0xb5c0fbcf, 0xe9b5dba5, 0x3956c25b, 0x59f111f1, 0x923f82a4, 0xab1c5ed5,
  0xd807aa98, 0x12835b01, 0x243185be, 0x550c7dc3, 0x72be5d74, 0x80deb1fe, 0x9bdc06a7, 0xc19bf174,
  0xe49b69c1, 0xefbe4786, 0x0fc19dc6, 0x240ca1cc, 0x2de92c6f, 0x4a7484aa, 0x5cb0a9dc, 0x76f988da,
  0x983e5152, 0xa831c66d, 0xb00327c8, 0xbf597fc7, 0xc6e00bf3, 0xd5a79147, 0x06ca6351, 0x14292967,
  0x27b70a85, 0x2e1b2138, 0x4d2c6dfc, 0x53380d13, 0x650a7354, 0x766a0abb, 0x81c2c92e, 0x92722c85,
  0xa2bfe8a1, 0xa81a664b, 0xc24b8b70, 0xc76c51a3, 0xd192e819, 0xd6990624, 0xf40e3585, 0x106aa070,
  0x19a4c116, 0x1e376c08, 0x2748774c, 0x34b0bcb5, 0x391c0cb3, 0x4ed8aa4a, 0x5b9cca4f, 0x682e6ff3,
  0x748f82ee, 0x78a5636f, 0x84c87814, 0x8cc70208, 0x90befffa, 0xa4506ceb, 0xbef9a3f7, 0xc67178f2]

structure Registers where
  a : Nat
  b : Nat
  c : Nat
  d : Nat
  e : Nat
  f : Nat
  g : Nat
  h : Nat

def initial : Registers :=
  ⟨0x6a09e667, 0xbb67ae85, 0x3c6ef372, 0xa54ff53a, 0x510e527f, 0x9b05688c, 0x1f83d9ab, 0x5be0cd19⟩

/-- Message padding: a one bit, zeros, and the bit length in eight bytes. -/
def pad (message : List Nat) : List Nat :=
  let zeros := (119 - message.length % 64) % 64
  let bits := message.length * 8
  message ++ 0x80 :: List.replicate zeros 0 ++
    [56, 48, 40, 32, 24, 16, 8, 0].map (fun shift => bits >>> shift % 256)

def words : List Nat → List Nat
  | a :: b :: c :: d :: rest => (a * 0x1000000 + b * 0x10000 + c * 0x100 + d) :: words rest
  | _ => []

def extend : Nat → List Nat → List Nat
  | 0, recent => recent
  | count + 1, recent =>
      let w2 := recent.getD 1 0
      let w15 := recent.getD 14 0
      let s0 := (rotate w15 7).xor ((rotate w15 18).xor (w15 >>> 3))
      let s1 := (rotate w2 17).xor ((rotate w2 19).xor (w2 >>> 10))
      extend count ((s1 + recent.getD 6 0 + s0 + recent.getD 15 0) % wordSize :: recent)

def round (r : Registers) (input : Nat × Nat) : Registers :=
  let s1 := (rotate r.e 6).xor ((rotate r.e 11).xor (rotate r.e 25))
  let choice := (r.e.land r.f).xor ((wordSize - 1 - r.e).land r.g)
  let t1 := r.h + s1 + choice + input.1 + input.2
  let s0 := (rotate r.a 2).xor ((rotate r.a 13).xor (rotate r.a 22))
  let majority := (r.a.land r.b).xor ((r.a.land r.c).xor (r.b.land r.c))
  ⟨(t1 + s0 + majority) % wordSize, r.a, r.b, r.c, (r.d + t1) % wordSize, r.e, r.f, r.g⟩

def compress (r : Registers) (block : List Nat) : Registers :=
  let schedule := (extend 48 (words block).reverse).reverse
  let s := (constants.zip schedule).foldl round r
  ⟨(r.a + s.a) % wordSize, (r.b + s.b) % wordSize, (r.c + s.c) % wordSize, (r.d + s.d) % wordSize,
    (r.e + s.e) % wordSize, (r.f + s.f) % wordSize, (r.g + s.g) % wordSize, (r.h + s.h) % wordSize⟩

/-- Structural on the number of blocks. -/
def absorb : Nat → Registers → List Nat → Registers
  | 0, r, _ => r
  | blocks + 1, r, message => absorb blocks (compress r (message.take 64)) (message.drop 64)

def hexdigest (text : Str) : Str :=
  let message := pad (text.flatMap utf8)
  let r := absorb (message.length / 64) initial message
  [r.a, r.b, r.c, r.d, r.e, r.f, r.g, r.h].flatMap fun word => (Nat.toDigits 16 word).leftpad 8 '0'

def Bounded (r : Registers) : Prop :=
  ∀ word ∈ [r.a, r.b, r.c, r.d, r.e, r.f, r.g, r.h], word < wordSize

theorem bounded_compress (r : Registers) (block : List Nat) : Bounded (compress r block) := by
  have reduced (n : Nat) : n % wordSize < wordSize := Nat.mod_lt _ (by decide)
  simp only [Bounded, compress, List.forall_mem_cons, reduced, true_and]
  exact List.forall_mem_nil _

theorem bounded_absorb {r : Registers} (bounded : Bounded r) (blocks : Nat) (message : List Nat) :
    Bounded (absorb blocks r message) := by
  induction blocks generalizing r message with
  | zero => exact bounded
  | succ blocks ih => exact ih (bounded_compress r _) _

theorem length_hexWord {word : Nat} (bounded : word < wordSize) :
    ((Nat.toDigits 16 word).leftpad 8 '0').length = 8 := by
  have short : (Nat.toDigits 16 word).length ≤ 8 :=
    (Nat.length_toDigits_le_iff (by decide) (by decide)).mpr bounded
  rw [List.length_leftpad]
  exact max_eq_left short

theorem length_hexdigest (text : Str) : (hexdigest text).length = 64 := by
  have bounded := bounded_absorb (r := initial) (by simp [Bounded, initial, wordSize])
    ((pad (text.flatMap utf8)).length / 64) (pad (text.flatMap utf8))
  simp only [Bounded, List.forall_mem_cons] at bounded
  obtain ⟨a, b, c, d, e, f, g, h, _⟩ := bounded
  simp only [hexdigest, List.flatMap_cons, List.flatMap_nil, List.length_append, List.length_nil,
    length_hexWord a, length_hexWord b, length_hexWord c, length_hexWord d, length_hexWord e,
    length_hexWord f, length_hexWord g, length_hexWord h]

theorem isHex_hexdigest (text : Str) : ∀ c ∈ hexdigest text, isHex c = true := by
  have digits : ∀ digit < 16, isHex (Nat.digitChar digit) = true := by decide
  intro c member
  obtain ⟨word, _, inWord⟩ := List.mem_flatMap.mp member
  rw [List.leftpad, List.mem_append] at inWord
  rcases inWord with padding | inDigits
  · rw [List.eq_of_mem_replicate padding]
    decide
  · obtain ⟨digit, below, same⟩ := mem_toDigits (by decide) word c inDigits
    rw [same]
    exact digits digit below

example : hexdigest "abc" =
    "ba7816bf8f01cfea414140de5dae2223b00361a396177a9cb410ff61f20015ad" := by
  decide +kernel

end DongleRescue.Data.Sha256
