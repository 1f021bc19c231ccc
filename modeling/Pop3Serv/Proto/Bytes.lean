import Mathlib

/-!
# Bytes, machine sizes and faults

What every file of the server shares: byte strings (`std::string` and
`std::string_view`), the few stream conversions the replies are built with,
unsigned subtraction on `std::size_t`, and the ways a C++ call can fail to
return normally.
-/

namespace Pop3Serv

/-- `std::string` contents: any bytes, NUL included. -/
abbrev Bytes := List UInt8

/-- The bytes of a source literal. -/
def ascii (text : String) : Bytes := text.toList.map fun c => UInt8.ofNat c.toNat

/-- What a `const char*` to these bytes denotes: everything before the first NUL. -/
def cstr (bytes : Bytes) : Bytes := bytes.takeWhile (· ≠ 0)

/-- `out << n` for an unsigned number. -/
def decimal (n : Nat) : Bytes := (Nat.toDigits 10 n).map fun c => UInt8.ofNat c.toNat

def cr : UInt8 := 13

def lf : UInt8 := 10

/-- The literal `"\r\n"`. -/
def crlf : Bytes := [cr, lf]

/-- `a - b` on `std::size_t`: it wraps when `b` is the larger. -/
def sizeSub (a b : Nat) : Nat := if b ≤ a then a - b else a + 2 ^ 64 - b

theorem sizeSub_of_le {a b : Nat} (h : b ≤ a) : sizeSub a b = a - b := if_pos h

theorem cstr_of_noNul {bytes : Bytes} (h : (0 : UInt8) ∉ bytes) : cstr bytes = bytes := by
  rw [cstr, List.takeWhile_eq_self_iff]
  intro b hb
  simpa using fun e : b = 0 => h (e ▸ hb)

theorem nul_notMem_cstr (bytes : Bytes) : (0 : UInt8) ∉ cstr bytes := by
  intro member
  simpa using List.mem_takeWhile_imp member

/-- Bytes filled up with NULs are the same C string. -/
theorem cstr_append_nuls (bytes : Bytes) (n : Nat) : cstr (bytes ++ List.replicate n 0) = cstr bytes := by
  unfold cstr
  induction bytes with
  | nil => cases n <;> simp [List.replicate_succ]
  | cons b bytes ih =>
    rw [List.cons_append, List.takeWhile_cons, List.takeWhile_cons, ih]

@[simp] theorem cstr_cstr (bytes : Bytes) : cstr (cstr bytes) = cstr bytes :=
  cstr_of_noNul (nul_notMem_cstr bytes)

theorem length_cstr_le (bytes : Bytes) : (cstr bytes).length ≤ bytes.length :=
  (List.takeWhile_sublist _).length_le

theorem toNat_digit {n : Nat} {c : Char} (digit : c ∈ Nat.toDigits 10 n) :
    (UInt8.ofNat c.toNat).toNat = c.toNat ∧ 48 ≤ c.toNat ∧ c.toNat ≤ 57 := by
  have range := Nat.isDigit_of_mem_toDigits (by omega) (by omega) digit
  simp only [Char.isDigit, Bool.and_eq_true, decide_eq_true_eq] at range
  have high : c.toNat ≤ 57 := range.2
  have fits : c.toNat < UInt8.size := Nat.lt_of_le_of_lt high (by decide)
  exact ⟨UInt8.toNat_ofNat_of_lt' fits, range.1, high⟩

theorem mem_decimal {n : Nat} {b : UInt8} (member : b ∈ decimal n) : 48 ≤ b.toNat ∧ b.toNat ≤ 57 := by
  obtain ⟨c, digit, rfl⟩ := List.mem_map.mp member
  obtain ⟨same, range⟩ := toNat_digit digit
  rw [same]
  exact range

theorem digits_decimal (n : Nat) : (decimal n).map (fun b => Char.ofNat b.toNat) = Nat.toDigits 10 n := by
  unfold decimal
  rw [List.map_map]
  refine (List.map_congr_left fun c digit => ?_).trans (List.map_id _)
  show Char.ofNat (UInt8.ofNat c.toNat).toNat = c
  rw [(toNat_digit digit).1, Char.ofNat_toNat]

theorem decimal_injective : Function.Injective decimal := by
  intro m n same
  have digits := congrArg (List.map fun b : UInt8 => Char.ofNat b.toNat) same
  rw [digits_decimal, digits_decimal] at digits
  rw [← Nat.ofDigitChars_ten_toDigits (n := m), digits, Nat.ofDigitChars_ten_toDigits]

/-- How a call ends that does not return: an exception, or an access the
language leaves undefined. -/
inductive Fault where
  /-- `std::filesystem::filesystem_error`, from `file_size` and the directory calls -/
  | filesystemError
  /-- `std::out_of_range`, thrown by `compact_string::string` -/
  | outOfRange
  /-- `std::bad_variant_access`, thrown by `std::get` -/
  | badVariantAccess
  /-- `std::exception{ "Failed to create mailbox directory" }` -/
  | createFailed
  /-- `operator[]` of a `std::vector` at or past its size -/
  | badIndex
  /-- a member call through a null `mailbox_ptr` -/
  | nullMailbox
  /-- an accessor of `rapidjson::Value` on a value of another type -/
  | jsonType
  deriving DecidableEq, Repr

end Pop3Serv
