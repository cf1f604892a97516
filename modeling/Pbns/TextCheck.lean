/-
The two hand-written UTF-8 checks (`utf8_is_valid` of `src/core/broker.c` and of
`pico/src/credentials.c`) octet by octet.

Both scan the text with an index, and tell the second octet of a long character in their own way.
`utf8Scan` is the scan, with a read behind the end of the text as its only failure.

* `utf8Scan_eq` — the scan against the check on lists;
* `utf8_checks_agree` — both are well-formedness, and neither reads behind the text.
-/
import Pbns.Credentials
import Pbns.RemoteError

namespace Pbns

/-- The scan of the checks.  `three` and `four` test the second octet of a character of that
length; a read behind the text has no value. -/
def utf8Scan (three four : Octet → Octet → Bool) (text : Octets) (index : ℕ) : Option Bool :=
  if h : text.length ≤ index then some true
  else do
    let first ← text[index]?
    if first ≤ 0x7f#8 then utf8Scan three four text (index + 1)
    else if 0xc2#8 ≤ first ∧ first ≤ 0xdf#8 then
      if text.length ≤ index + 1 then return false
      let second ← text[index + 1]?
      if continuation second = false then return false
      utf8Scan three four text (index + 2)
    else if 0xe0#8 ≤ first ∧ first ≤ 0xef#8 then
      if text.length ≤ index + 2 then return false
      let second ← text[index + 1]?
      let third ← text[index + 2]?
      if three first second = false ∨ continuation third = false then return false
      utf8Scan three four text (index + 3)
    else if 0xf0#8 ≤ first ∧ first ≤ 0xf4#8 then
      if text.length ≤ index + 3 then return false
      let second ← text[index + 1]?
      let third ← text[index + 2]?
      let fourth ← text[index + 3]?
      if four first second = false ∨ continuation third = false ∨ continuation fourth = false then
        return false
      utf8Scan three four text (index + 4)
    else return false
termination_by text.length - index

/-- `second_min` and `second_max` of the broker. -/
def brokerThree (first second : Octet) : Bool :=
  (if first = 0xe0#8 then 0xa0#8 else 0x80#8) ≤ second &&
    second ≤ (if first = 0xed#8 then 0x9f#8 else 0xbf#8)

def brokerFour (first second : Octet) : Bool :=
  (if first = 0xf0#8 then 0x90#8 else 0x80#8) ≤ second &&
    second ≤ (if first = 0xf4#8 then 0x8f#8 else 0xbf#8)

/-- `second_valid` of the credential store. -/
def credentialsThree (first second : Octet) : Bool :=
  (first == 0xe0#8 && 0xa0#8 ≤ second && second ≤ 0xbf#8) ||
    (first == 0xed#8 && 0x80#8 ≤ second && second ≤ 0x9f#8) ||
    ((0xe1#8 ≤ first && first ≤ 0xec#8 || 0xee#8 ≤ first && first ≤ 0xef#8) && continuation second)

def credentialsFour (first second : Octet) : Bool :=
  (first == 0xf0#8 && 0x90#8 ≤ second && second ≤ 0xbf#8) ||
    (first == 0xf4#8 && 0x80#8 ≤ second && second ≤ 0x8f#8) ||
    (0xf1#8 ≤ first && first ≤ 0xf3#8 && continuation second)

/-- `utf8_is_valid` of the broker. -/
def brokerUtf8Scan (text : Octets) : Option Bool := utf8Scan brokerThree brokerFour text 0

/-- `utf8_is_valid` of the credential store. -/
def credentialsUtf8Scan (text : Octets) : Option Bool :=
  utf8Scan credentialsThree credentialsFour text 0

section Scan

variable {three four : Octet → Octet → Bool}

/-- **The scan reads inside the text**, and gives what a check on lists gives that tests the same
octets in the same order. -/
theorem utf8Scan_eq {check : Octets → Bool} (hnil : check [] = true)
    (hcons : ∀ first rest, check (first :: rest) =
      if first ≤ 0x7f#8 then check rest
      else if 0xc2#8 ≤ first ∧ first ≤ 0xdf#8 then
        match rest with
        | second :: rest => continuation second && check rest
        | _ => false
      else if 0xe0#8 ≤ first ∧ first ≤ 0xef#8 then
        match rest with
        | second :: third :: rest => three first second && continuation third && check rest
        | _ => false
      else if 0xf0#8 ≤ first ∧ first ≤ 0xf4#8 then
        match rest with
        | second :: third :: fourth :: rest =>
          four first second && continuation third && continuation fourth && check rest
        | _ => false
      else false)
    (front rest : Octets) :
    utf8Scan three four (front ++ rest) front.length = some (check rest) := by
  -- by the number of octets left, since a character takes up to four of them
  induction hn : rest.length using Nat.strongRecOn generalizing front rest with
  | _ n ih =>
    subst hn
    have hread : ∀ k, (front ++ rest)[front.length + k]? = rest[k]? := by
      intro k
      rw [List.getElem?_append_right (by omega), Nat.add_sub_cancel_left]
    have hnext : ∀ k (taken left : Octets), taken.length = k → 0 < k → rest = taken ++ left →
        utf8Scan three four (front ++ rest) (front.length + k) = some (check left) := by
      rintro _ taken left rfl hpos rfl
      have hstep := ih left.length (by rw [List.length_append]; omega) (front ++ taken) left rfl
      rwa [List.append_assoc, List.length_append] at hstep
    rw [utf8Scan]
    rcases rest with _ | ⟨first, rest⟩
    · rw [List.append_nil, dif_pos (Nat.le_refl _), hnil]
    rw [dif_neg (by simp), show (front ++ first :: rest)[front.length]? = some first from hread 0,
      hcons, hread 1, hread 2, hread 3, List.length_append]
    simp only [Option.bind_eq_bind, Option.bind_some, List.length_cons, List.getElem?_cons_succ,
      apply_ite some]
    refine ite_congr rfl (fun _ => hnext 1 [first] rest rfl Nat.one_pos rfl) fun _ =>
      ite_congr rfl (fun _ => ?_) fun _ => ite_congr rfl (fun _ => ?_) fun _ =>
      ite_congr rfl (fun _ => ?_) fun _ => rfl
    · rcases rest with _ | ⟨second, rest⟩
      · simp
      · cases hsecond : continuation second <;>
          simp [hsecond, hnext 2 [first, second] rest rfl (by decide) rfl]
    · rcases rest with _ | ⟨second, _ | ⟨third, rest⟩⟩
      · simp
      · simp
      · cases hsecond : three first second <;> cases hthird : continuation third <;>
          simp [hsecond, hthird, hnext 3 [first, second, third] rest rfl (by decide) rfl]
    · rcases rest with _ | ⟨second, _ | ⟨third, _ | ⟨fourth, rest⟩⟩⟩
      · simp
      · simp
      · simp
      · cases hsecond : four first second <;> cases hthird : continuation third <;>
          cases hfourth : continuation fourth <;> simp [hsecond, hthird, hfourth,
            hnext 4 [first, second, third, fourth] rest rfl (by decide) rfl]

end Scan

theorem brokerUtf8Scan_eq (text : Octets) : brokerUtf8Scan text = some (utf8IsValid text) :=
  utf8Scan_eq (utf8IsValid.eq_def []) (fun first rest => utf8IsValid.eq_def (first :: rest)) [] text

theorem credentialsUtf8Scan_eq (text : Octets) :
    credentialsUtf8Scan text = some (credentialsUtf8IsValid text) :=
  utf8Scan_eq (credentialsUtf8IsValid.eq_def [])
    (fun first rest => credentialsUtf8IsValid.eq_def (first :: rest)) [] text

/-- The two ways to test the second octet of three. -/
theorem credentialsThree_eq {first : Octet} (h : 0xe0#8 ≤ first ∧ first ≤ 0xef#8) (second : Octet) :
    credentialsThree first second = brokerThree first second := by
  rw [Bool.eq_iff_iff]
  simp only [credentialsThree, brokerThree, continuation, Bool.or_eq_true, Bool.and_eq_true,
    decide_eq_true_eq, beq_iff_eq, ite_le_octet, le_ite_octet]
  simp only [BitVec.le_def, BitVec.toNat_eq, BitVec.toNat_ofNat, Nat.reducePow, Nat.reduceMod] at h ⊢
  split_ifs <;> omega

theorem credentialsFour_eq {first : Octet} (h : 0xf0#8 ≤ first ∧ first ≤ 0xf4#8) (second : Octet) :
    credentialsFour first second = brokerFour first second := by
  rw [Bool.eq_iff_iff]
  simp only [credentialsFour, brokerFour, continuation, Bool.or_eq_true, Bool.and_eq_true,
    decide_eq_true_eq, beq_iff_eq, ite_le_octet, le_ite_octet]
  simp only [BitVec.le_def, BitVec.toNat_eq, BitVec.toNat_ofNat, Nat.reducePow, Nat.reduceMod] at h ⊢
  split_ifs <;> omega

/-- The scan of the credential store gives what the check of the broker gives. -/
theorem credentialsUtf8Scan_broker (text : Octets) :
    credentialsUtf8Scan text = some (utf8IsValid text) := by
  refine utf8Scan_eq (utf8IsValid.eq_def []) (fun first rest => ?_) [] text
  rw [utf8IsValid.eq_def]
  refine ite_congr rfl (fun _ => rfl) fun _ => ite_congr rfl (fun _ => rfl) fun _ =>
    ite_congr rfl (fun hthree => ?_) fun _ => ite_congr rfl (fun hfour => ?_) fun _ => rfl
  · simp only [credentialsThree_eq hthree]
    rfl
  · simp only [credentialsFour_eq hfour]
    rfl

/-- **The checks are exact and agree.**  Both scans stay inside the text, whatever it is, and find
it valid exactly when it is well-formed UTF-8; so does the check on lists that the model of the
credential store goes by. -/
theorem utf8_checks_agree (text : Octets) : ∃ valid, brokerUtf8Scan text = some valid ∧
    credentialsUtf8Scan text = some valid ∧ credentialsUtf8IsValid text = valid ∧
    (valid = true ↔ Utf8.WellFormed text) := by
  have hstore := credentialsUtf8Scan_broker text
  refine ⟨utf8IsValid text, brokerUtf8Scan_eq text, hstore, ?_, utf8IsValid_iff⟩
  rw [credentialsUtf8Scan_eq] at hstore
  exact Option.some.inj hstore

end Pbns
