import Mathlib.Data.List.Basic
import Mathlib.Algebra.Group.Nat.Basic

/-!
# Raw bytes on the wire

Every message of the client and of the master server is a `std::string` of raw bytes: a
4-byte `game::PROTOCOL` tag written by `utils::buffer_serializer::write<uint32_t>`, followed by
one fixed-layout record written by `write<T>`, which appends the `sizeof(T)` bytes of the record
as they lie in memory. This file models those bytes.

* A `std::string` is a list of bytes (`StdString`); it may hold `NUL` bytes.
* `leBytes w n` are the `w` bytes of a `w`-byte unsigned integer `n` on the little-endian targets
  the client is built for, and `leValue` reads them back (`leValue_leBytes`).
* `CharArray N` is a `std::array<char, N>` field of a record; `copyString` and `extractString`
  are `network::protocol::copy_string` and `extract_string`, `strnlen` the C function.
* `BufferDeserializer.read` is `utils::buffer_deserializer::read<T>`: it takes the next
  `sizeof(T)` bytes and throws on a short buffer, modelled as `none`.
* `XORCipher.encrypt` is `security::XORCipher::encrypt`, which XORs byte `i` with
  `KEY[i % 16]`; `decrypt` is the same call.

## Main definitions

* `StdString`, `leBytes`, `leValue`, `CharArray`, `strnlen`, `copyString`, `extractString`.
* `BufferDeserializer`, `BufferDeserializer.read`.
* `xorKey`, `XORCipher.encrypt`, `XORCipher.decrypt`, `XORCipher.validateSize`.

## Main results

* `leValue_leBytes`: reading back the bytes of an integer gives it modulo `256 ^ w`.
* `extractString_copyString`: the round trip of a bounded string field.
* `read_eq_some_iff`: a read succeeds exactly when enough bytes remain.
* `XORCipher.xor_cipher_round_trip`: decryption undoes encryption, byte for byte, and the size
  check is the same before and after.

Source: the `network::protocol` section of `src/common/network/interpolator.hpp` (`copy_string`,
`extract_string`) and `security::XORCipher`; the serializer calls of `broadcast_quest_fact` and of
the `receive_*_safe` handlers.
-/

namespace WitcherSeamless

/-- A `std::string`: its bytes, `NUL` bytes included. -/
abbrev StdString := List UInt8

/-! ### Little-endian integers -/

/-- The `w` bytes of the unsigned integer `n`, least significant first. -/
def leBytes : Nat → Nat → List UInt8
  | 0, _ => []
  | w + 1, n => UInt8.ofNat (n % 256) :: leBytes w (n / 256)

/-- The unsigned integer whose little-endian bytes are `bs`. -/
def leValue : List UInt8 → Nat
  | [] => 0
  | b :: bs => b.toNat + 256 * leValue bs

@[simp] theorem length_leBytes (w n : Nat) : (leBytes w n).length = w := by
  induction w generalizing n with
  | zero => rfl
  | succ w ih => simp [leBytes, ih]

theorem toNat_ofNat_mod_256 (n : Nat) : (UInt8.ofNat (n % 256)).toNat = n % 256 :=
  UInt8.toNat_ofNat_of_lt (Nat.mod_lt _ (by decide))

theorem leValue_leBytes (w n : Nat) : leValue (leBytes w n) = n % 256 ^ w := by
  induction w generalizing n with
  | zero => simp only [leBytes, leValue, Nat.pow_zero, Nat.mod_one]
  | succ w ih =>
    rw [leBytes, leValue, ih, toNat_ofNat_mod_256, Nat.pow_succ', Nat.mod_mul]

/-- The raw bytes of a `uint16_t`. -/
def u16Bytes (x : UInt16) : List UInt8 := leBytes 2 x.toNat

/-- The raw bytes of a `uint32_t`. -/
def u32Bytes (x : UInt32) : List UInt8 := leBytes 4 x.toNat

/-- The raw bytes of a `uint64_t`. -/
def u64Bytes (x : UInt64) : List UInt8 := leBytes 8 x.toNat

/-- The raw bytes of an `int32_t`, in two's complement. -/
def i32Bytes (x : BitVec 32) : List UInt8 := leBytes 4 x.toNat

@[simp] theorem length_u32Bytes (x : UInt32) : (u32Bytes x).length = 4 := length_leBytes 4 _
@[simp] theorem length_u64Bytes (x : UInt64) : (u64Bytes x).length = 8 := length_leBytes 8 _
@[simp] theorem length_i32Bytes (x : BitVec 32) : (i32Bytes x).length = 4 := length_leBytes 4 _

theorem leValue_u32Bytes (x : UInt32) : leValue (u32Bytes x) = x.toNat := by
  rw [u32Bytes, leValue_leBytes]
  exact Nat.mod_eq_of_lt x.toNat_lt_size

theorem leValue_u64Bytes (x : UInt64) : leValue (u64Bytes x) = x.toNat := by
  rw [u64Bytes, leValue_leBytes]
  exact Nat.mod_eq_of_lt x.toNat_lt_size

/-- `n` zero bytes: the padding and the empty tail of a value-initialised record. -/
def zeros (n : Nat) : List UInt8 := List.replicate n 0

/-! ### Bounded string fields -/

/-- A `std::array<char, N>` field of a record. -/
structure CharArray (N : Nat) where
  data : List UInt8
  length_data : data.length = N
  deriving DecidableEq

/-- The zero-initialised field `std::array<char, N>{}`. -/
def CharArray.zero (N : Nat) : CharArray N := ⟨zeros N, List.length_replicate _ _⟩

/-- `strnlen(s, n)`: the number of bytes of `s` before its first `NUL`, at most `n`. -/
def strnlen (s : List UInt8) (n : Nat) : Nat := ((s.take n).takeWhile (· ≠ 0)).length

/-- `copy_string(dest, src)`: copy `min(src.size(), N - 1)` bytes of `src` to the front of
`dest` and write a `NUL` after them; the rest of `dest` is left as it was. -/
def copyString {N : Nat} (hN : 0 < N) (dest : CharArray N) (src : StdString) : CharArray N where
  data := src.take (min src.length (N - 1)) ++ 0 :: dest.data.drop (min src.length (N - 1) + 1)
  length_data := by
    simp only [List.length_append, List.length_take, List.length_cons, List.length_drop,
      dest.length_data]
    omega

/-- `extract_string(src)`: the bytes of `src` before its first `NUL`, at most `N` of them. -/
def extractString {N : Nat} (src : CharArray N) : StdString := src.data.take (strnlen src.data N)

/-- The bytes before the first `NUL` of `p ++ 0 :: rest` are those of `p`. -/
theorem takeWhile_append_nul (p rest : List UInt8) :
    (p ++ 0 :: rest).takeWhile (· ≠ 0) = p.takeWhile (· ≠ 0) := by
  induction p with
  | nil => simp
  | cons x p ih => simp only [List.cons_append, List.takeWhile_cons, ih]

theorem take_length_takeWhile (q : UInt8 → Bool) (l : List UInt8) :
    l.take (l.takeWhile q).length = l.takeWhile q :=
  calc l.take (l.takeWhile q).length
      = (l.takeWhile q ++ l.dropWhile q).take (l.takeWhile q).length := by
        rw [List.takeWhile_append_dropWhile]
    _ = l.takeWhile q := List.take_left _ _

/-- `copy_string` leaves the first `N - 1` bytes of the source, then a `NUL` inside the field. -/
theorem copyString_data {N : Nat} (hN : 0 < N) (dest : CharArray N) (src : StdString) :
    ∃ rest, (copyString hN dest src).data = src.take (N - 1) ++ 0 :: rest ∧
      (src.take (N - 1)).length + 1 ≤ N := by
  refine ⟨dest.data.drop (min src.length (N - 1) + 1), ?_, by simp only [List.length_take]; omega⟩
  simp only [copyString]
  congr 1
  rcases le_total src.length (N - 1) with h | h
  · rw [min_eq_left h, List.take_of_length_le h, List.take_of_length_le le_rfl]
  · rw [min_eq_right h]

/-- The round trip of a bounded string field, for every field size `N > 0`, every stale content
of the field and every source: `extract_string(copy_string(dest, s))` is the part of `s` before
its first `NUL`, cut to `N - 1` bytes. The terminator is found inside the field, and a string
without `NUL` of at most `N - 1` bytes comes back unchanged. -/
theorem extractString_copyString {N : Nat} (hN : 0 < N) (dest : CharArray N) (s : StdString) :
    extractString (copyString hN dest s) = (s.take (N - 1)).takeWhile (· ≠ 0) ∧
      strnlen (copyString hN dest s).data N ≤ N - 1 ∧
      (0 ∉ s → s.length ≤ N - 1 → extractString (copyString hN dest s) = s) := by
  obtain ⟨rest, hdata, hlen⟩ := copyString_data hN dest s
  have htake : (copyString hN dest s).data.take N =
      s.take (N - 1) ++ 0 :: rest.take (N - (s.take (N - 1)).length - 1) := by
    rw [hdata, List.take_append_eq_append_take, List.take_of_length_le (by omega),
      show N - (s.take (N - 1)).length = (N - (s.take (N - 1)).length - 1) + 1 by omega]
    rfl
  have hstr : strnlen (copyString hN dest s).data N =
      ((s.take (N - 1)).takeWhile (· ≠ 0)).length := by
    rw [strnlen, htake, takeWhile_append_nul]
  have hext : extractString (copyString hN dest s) = (s.take (N - 1)).takeWhile (· ≠ 0) := by
    rw [extractString, hstr, hdata,
      List.take_append_of_le_length (List.takeWhile_sublist _).length_le, take_length_takeWhile]
  refine ⟨hext, ?_, fun h0 hs => ?_⟩
  · rw [hstr]
    exact (List.takeWhile_sublist _).length_le.trans (by simp only [List.length_take]; omega)
  · rw [hext, List.take_of_length_le hs, List.takeWhile_eq_self_iff]
    intro x hx
    simpa using fun e : x = 0 => h0 (e ▸ hx)

/-- A five-byte field and the name `kate`, four bytes and no `NUL`. -/
theorem extractString_copyString_kate :
    0 < 5 ∧ (extractString (copyString (Nat.succ_pos 4) (CharArray.zero 5) [107, 97, 116, 101]) =
        ([107, 97, 116, 101].take 4).takeWhile (· ≠ 0) ∧
      strnlen (copyString (Nat.succ_pos 4) (CharArray.zero 5) [107, 97, 116, 101]).data 5 ≤ 4 ∧
      ((0 : UInt8) ∉ ([107, 97, 116, 101] : StdString) →
        ([107, 97, 116, 101] : StdString).length ≤ 4 →
        extractString (copyString (Nat.succ_pos 4) (CharArray.zero 5) [107, 97, 116, 101]) =
          [107, 97, 116, 101])) :=
  ⟨by decide, extractString_copyString (Nat.succ_pos 4) (CharArray.zero 5) [107, 97, 116, 101]⟩

/-! ### Reading records -/

/-- Modelled from the spec: `utils::buffer_deserializer`, whose header is not among the sources.
`read<T>` takes the next `sizeof(T)` bytes and throws when fewer remain ("read<T> throws on a short
buffer"); a throw is `none`. -/
structure BufferDeserializer where
  remaining : List UInt8

/-- `buffer.read<T>()` for a `T` of `n` bytes: the bytes read and the deserializer after them. -/
def BufferDeserializer.read (n : Nat) (b : BufferDeserializer) :
    Option (List UInt8 × BufferDeserializer) :=
  if n ≤ b.remaining.length then some (b.remaining.take n, ⟨b.remaining.drop n⟩) else none

theorem read_eq_some_iff (n : Nat) (b : BufferDeserializer) (bs : List UInt8)
    (b' : BufferDeserializer) :
    b.read n = some (bs, b') ↔
      n ≤ b.remaining.length ∧ bs = b.remaining.take n ∧ b'.remaining = b.remaining.drop n := by
  unfold BufferDeserializer.read
  split_ifs with h
  · cases b'
    simp [h, eq_comm]
  · simp [h]

theorem read_eq_none_iff (n : Nat) (b : BufferDeserializer) :
    b.read n = none ↔ b.remaining.length < n := by
  unfold BufferDeserializer.read
  split_ifs with h <;> simp [h]; omega

/-! ### The XOR cipher -/

/-- `security::XORCipher::KEY`. -/
def xorKey : List UInt8 :=
  [0x4A, 0x7B, 0x2C, 0x9D, 0xE1, 0x5F, 0x38, 0xA6, 0xC4, 0x81, 0x6E, 0xB2, 0x57, 0xD9, 0x3C, 0xF0]

namespace XORCipher

/-- `XORCipher::encrypt`: `data[i] ^= KEY[i % KEY.size()]` for every byte. -/
def encrypt (data : StdString) : StdString :=
  data.mapIdx fun i b => b ^^^ xorKey.getD (i % xorKey.length) 0

/-- `XORCipher::decrypt`, which calls `encrypt`. -/
def decrypt (data : StdString) : StdString := encrypt data

/-- `XORCipher::MAX_PACKET_SIZE`. -/
def maxPacketSize : Nat := 1024

/-- `XORCipher::validate_size`. -/
def validateSize (size : Nat) : Bool := size ≤ maxPacketSize

theorem xor_xor_cancel (b k : UInt8) : b ^^^ k ^^^ k = b := by
  apply UInt8.eq_of_toBitVec_eq
  show b.toBitVec ^^^ k.toBitVec ^^^ k.toBitVec = b.toBitVec
  rw [BitVec.xor_assoc, BitVec.xor_self, BitVec.xor_zero]

theorem length_encrypt (data : StdString) : (encrypt data).length = data.length :=
  List.length_mapIdx

/-- The cipher round trips and keeps the size: decryption gives back every byte that was
encrypted, and a message passes `validate_size` after encryption exactly when it passed before. -/
theorem xor_cipher_round_trip (data : StdString) :
    decrypt (encrypt data) = data ∧ validateSize (encrypt data).length = validateSize data.length := by
  refine ⟨List.ext_getElem (by rw [decrypt, length_encrypt, length_encrypt]) fun i _ _ => ?_,
    by rw [length_encrypt]⟩
  simp only [decrypt, encrypt, List.getElem_mapIdx, xor_xor_cancel]

end XORCipher

end WitcherSeamless
