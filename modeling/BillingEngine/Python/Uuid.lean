import BillingEngine.Python.Exceptions

/-!
# `uuid.UUID`

A UUID is a 128-bit integer. `Uuid.str` is `str(u)`: 32 lower-case hexadecimal
digits with hyphens after the 8th, 12th, 16th and 20th. `Uuid.parse` is the
constructor `UUID(hex)`, for which, as documented, curly braces, hyphens and a
URN prefix are optional around the 32 hexadecimal digits; anything else is a
`ValueError`. (`int(hex, 16)` happens to take a sign, a prefix `0x` and underscores
among 32 characters as well. Those texts, which no UUID is written as, are refused here.)

`uuid.uuid4()` has no definition here: every operation that draws one takes the
drawn value as an argument.

Results: `parse_str` (the constructor reads back what `str` writes), `str_injective`.
-/

namespace BillingEngine

/-- `uuid.UUID`, as its `int` attribute. -/
structure Uuid where
  int : Fin (2 ^ 128)
deriving DecidableEq

/-- A key can be written as a numeral. -/
instance Uuid.neZero : NeZero (2 ^ 128) := ⟨by decide⟩

namespace Uuid

/-! ## `str(u)` -/

/-- The 32 hexadecimal digits, most significant first (`'%032x' % self.int`). -/
def hex (u : Uuid) : List Char :=
  (List.range 32).map fun i => Nat.digitChar (u.int.val / 16 ^ (31 - i) % 16)

/-- `str(u)`: `'%s-%s-%s-%s-%s' % (hex[:8], hex[8:12], hex[12:16], hex[16:20], hex[20:])`. -/
def str (u : Uuid) : String :=
  let h := u.hex
  String.ofList (h.take 8 ++ '-' :: (h.drop 8).take 4 ++ '-' :: (h.drop 12).take 4 ++
    '-' :: (h.drop 16).take 4 ++ '-' :: h.drop 20)

/-! ## `UUID(hex)` -/

/-- The value of one hexadecimal digit. -/
def hexDigit (c : Char) : Option ℕ :=
  if '0' ≤ c ∧ c ≤ '9' then some (c.toNat - '0'.toNat)
  else if 'a' ≤ c ∧ c ≤ 'f' then some (c.toNat - 'a'.toNat + 10)
  else if 'A' ≤ c ∧ c ≤ 'F' then some (c.toNat - 'A'.toNat + 10)
  else none

/-- `s.replace(pat, '')`, reading from the left; `skip` characters of a match
    are still to be dropped. -/
def removeAll (pat : List Char) (skip : ℕ) : List Char → List Char
  | [] => []
  | c :: cs =>
    if 0 < skip then removeAll pat (skip - 1) cs
    else if pat.isPrefixOf (c :: cs) then removeAll pat (pat.length - 1) cs
    else c :: removeAll pat 0 cs

/-- `s.strip('{}')` -/
def stripBraces (s : List Char) : List Char :=
  let brace (c : Char) : Bool := c = '{' ∨ c = '}'
  ((s.dropWhile brace).reverse.dropWhile brace).reverse

/-- The number written by a list of hexadecimal digits. -/
def hexValue (digits : List Char) : Option ℕ :=
  digits.foldlM (fun acc c => (hexDigit c).map fun d => 16 * acc + d) 0

/-- The constructor `UUID(hex)`:
```
hex = hex.replace('urn:', '').replace('uuid:', '')
hex = hex.strip('{}').replace('-', '')
if len(hex) != 32: raise ValueError('badly formed hexadecimal UUID string')
int = int_(hex, 16)
``` -/
def parse (hex : String) : Except Exn Uuid :=
  let hex := removeAll "uuid:".toList 0 (removeAll "urn:".toList 0 hex.toList)
  let hex := (stripBraces hex).filter (· ≠ '-')
  if hex.length ≠ 32 then .error (.valueError "badly formed hexadecimal UUID string")
  else
    match hexValue hex with
    | none => .error (.valueError "invalid literal for int() with base 16")
    | some n => .ok ⟨Fin.ofNat (2 ^ 128) n⟩

/-! ## Round trip -/

theorem hexDigit_digitChar {d : ℕ} (h : d < 16) : hexDigit (Nat.digitChar d) = some d := by
  have hall : ∀ e ∈ List.range 16, hexDigit (Nat.digitChar e) = some e := by decide
  exact hall d (List.mem_range.mpr h)

/-- The characters of `str`: neither a hyphen, nor a brace, nor the `u` of a prefix. -/
theorem digitChar_ne {d : ℕ} (h : d < 16) :
    Nat.digitChar d ≠ '-' ∧ Nat.digitChar d ≠ '{' ∧ Nat.digitChar d ≠ '}' ∧
      Nat.digitChar d ≠ 'u' := by
  have hall : ∀ e ∈ List.range 16, Nat.digitChar e ≠ '-' ∧ Nat.digitChar e ≠ '{' ∧
      Nat.digitChar e ≠ '}' ∧ Nat.digitChar e ≠ 'u' := by decide
  exact hall d (List.mem_range.mpr h)

theorem hex_ne {u : Uuid} {c : Char} (h : c ∈ u.hex) :
    c ≠ '-' ∧ c ≠ '{' ∧ c ≠ '}' ∧ c ≠ 'u' := by
  obtain ⟨i, -, rfl⟩ := List.mem_map.mp h
  exact digitChar_ne (Nat.mod_lt _ (by decide))

theorem length_hex (u : Uuid) : u.hex.length = 32 := by
  rw [hex, List.length_map, List.length_range]

/-- The first `k` digits of a number below `16 ^ 32` are the number without the rest. -/
theorem hexValue_digits {n : ℕ} (hn : n < 16 ^ 32) (k : ℕ) (hk : k ≤ 32) :
    hexValue ((List.range k).map fun i => Nat.digitChar (n / 16 ^ (31 - i) % 16)) =
      some (n / 16 ^ (32 - k)) := by
  induction k with
  | zero =>
    rw [Nat.div_eq_of_lt (by simpa using hn)]
    rfl
  | succ k ih =>
    have hdigit := hexDigit_digitChar (Nat.mod_lt (n / 16 ^ (31 - k)) (show 0 < 16 by decide))
    have hshift : n / 16 ^ (32 - k) = n / 16 ^ (31 - k) / 16 := by
      rw [Nat.div_div_eq_div_mul, ← pow_succ]
      congr 2
      omega
    rw [hexValue, List.range_succ, List.map_append, List.foldlM_append, ← hexValue,
      ih (by omega), hshift]
    simp only [List.map_cons, List.map_nil, List.foldlM_cons, List.foldlM_nil, hdigit]
    have hrest : 32 - (k + 1) = 31 - k := by omega
    rw [hrest]
    simp only [bind, Option.bind, Option.map, pure]
    rw [Nat.div_add_mod]

theorem hexValue_hex (u : Uuid) : hexValue u.hex = some u.int.val := by
  have hn : u.int.val < 16 ^ 32 := u.int.isLt
  have h := hexValue_digits hn 32 le_rfl
  rwa [Nat.sub_self, pow_zero, Nat.div_one] at h

/-- Nothing is removed where the first character of the pattern does not occur. -/
theorem removeAll_of_not_mem {p : Char} {pat s : List Char} (h : p ∉ s) :
    removeAll (p :: pat) 0 s = s := by
  induction s with
  | nil => rfl
  | cons c s ih =>
    rw [List.mem_cons, not_or] at h
    have hfirst : (p :: pat).isPrefixOf (c :: s) = false := by
      simp [List.isPrefixOf, h.1]
    rw [removeAll, if_neg (by decide), hfirst, if_neg (by decide), ih h.2]

theorem stripBraces_of_not_mem {s : List Char} (h : ∀ c ∈ s, c ≠ '{' ∧ c ≠ '}') :
    stripBraces s = s := by
  have hdrop : ∀ l : List Char, (∀ c ∈ l, c ≠ '{' ∧ c ≠ '}') →
      l.dropWhile (fun c => decide (c = '{' ∨ c = '}')) = l := by
    intro l hl
    cases l with
    | nil => rfl
    | cons c l => rw [List.dropWhile_cons_of_neg (by simpa using hl c (by simp))]
  rw [stripBraces]
  simp only [hdrop s h]
  rw [hdrop s.reverse fun c hc => h c (List.mem_reverse.mp hc), List.reverse_reverse]

theorem mem_str {u : Uuid} {c : Char} (h : c ∈ u.str.toList) : c = '-' ∨ c ∈ u.hex := by
  have htake : ∀ n m, c ∈ (u.hex.drop n).take m → c ∈ u.hex := fun n m hc =>
    List.mem_of_mem_drop (List.mem_of_mem_take hc)
  simp only [str, String.toList_ofList, List.mem_append, List.mem_cons] at h
  rcases h with ((((h | h | h) | h | h) | h | h) | h | h)
  · exact .inr (List.mem_of_mem_take h)
  · exact .inl h
  · exact .inr (htake _ _ h)
  · exact .inl h
  · exact .inr (htake _ _ h)
  · exact .inl h
  · exact .inr (htake _ _ h)
  · exact .inl h
  · exact .inr (List.mem_of_mem_drop h)

theorem filter_hyphens_str (u : Uuid) : u.str.toList.filter (· ≠ '-') = u.hex := by
  have hkeep : ∀ l : List Char, (∀ c ∈ l, c ∈ u.hex) → l.filter (· ≠ '-') = l := fun l hl =>
    List.filter_eq_self.mpr fun c hc => by simpa using (hex_ne (hl c hc)).1
  have hpart : ∀ n m, ((u.hex.drop n).take m).filter (· ≠ '-') = (u.hex.drop n).take m :=
    fun n m => hkeep _ fun c hc => List.mem_of_mem_drop (List.mem_of_mem_take hc)
  have hjoin : ∀ n m, (u.hex.drop n).take m ++ u.hex.drop (n + m) = u.hex.drop n := by
    intro n m
    rw [← List.drop_drop, List.take_append_drop]
  have hhyphen : ∀ l : List Char, ('-' :: l).filter (· ≠ '-') = l.filter (· ≠ '-') :=
    fun l => List.filter_cons_of_neg (by simp)
  rw [str, String.toList_ofList, List.filter_append, List.filter_append, List.filter_append,
    List.filter_append, hhyphen, hhyphen, hhyphen, hhyphen, hpart, hpart, hpart,
    hkeep _ fun c => List.mem_of_mem_take, hkeep _ fun c => List.mem_of_mem_drop,
    List.append_assoc, List.append_assoc, List.append_assoc, hjoin 16 4, hjoin 12 4, hjoin 8 4,
    List.take_append_drop]

/-- **`UUID(str(u))` is `u`.** -/
theorem parse_str (u : Uuid) : parse u.str = .ok u := by
  have hu : 'u' ∉ u.str.toList := by
    intro h
    rcases mem_str h with h | h
    · simp at h
    · exact (hex_ne h).2.2.2 rfl
  have hbraces : ∀ c ∈ u.str.toList, c ≠ '{' ∧ c ≠ '}' := by
    intro c h
    rcases mem_str h with rfl | h
    · decide
    · exact ⟨(hex_ne h).2.1, (hex_ne h).2.2.1⟩
  have hurn : removeAll "urn:".toList 0 u.str.toList = u.str.toList := removeAll_of_not_mem hu
  have huuid : removeAll "uuid:".toList 0 u.str.toList = u.str.toList := removeAll_of_not_mem hu
  rw [parse]
  simp only [hurn, huuid, stripBraces_of_not_mem hbraces, filter_hyphens_str, length_hex,
    hexValue_hex, ne_eq, not_true_eq_false, if_false]
  have hval : Fin.ofNat (2 ^ 128) u.int.val = u.int := Fin.ext (Nat.mod_eq_of_lt u.int.isLt)
  rw [hval]

theorem str_injective : Function.Injective str := by
  intro u u' h
  have hparse := parse_str u
  rw [h, parse_str] at hparse
  exact (Except.ok.inj hparse).symm

example : parse (str ⟨0x12345678123456781234567812345678⟩) =
    .ok ⟨0x12345678123456781234567812345678⟩ := by decide

end Uuid

end BillingEngine
