import CertScope.Trust.Reading
import CertScope.Proofs.Asn1.Strict

/-!
# Path readers that succeed

A path reader is a composition of steps that take bytes off the front.  The lemmas
here say what was in front when a step succeeded, so that a reader is taken apart
step by step down to the values in the bytes.
-/

namespace CertScope.PathReader

variable {first second value : Type} {bytes rest : Bytes}

theorem bind_eq_ok {reader : PathReader first} {next : first → PathReader second}
    {result : second × Bytes} :
    (reader >>= next) bytes = .ok result ↔
      ∃ middle left, reader bytes = .ok (middle, left) ∧ next middle left = .ok result := by
  change (reader bytes >>= fun read => next read.1 read.2) = .ok result ↔ _
  rw [Outcome.bind_eq_ok, Prod.exists]

theorem pure_eq_ok {given : value} {result : value × Bytes} :
    (pure given : PathReader value) bytes = .ok result ↔ (given, bytes) = result :=
  Outcome.pure_eq_ok

theorem map_eq_ok {function : first → second} {reader : PathReader first}
    {result : second × Bytes} :
    (function <$> reader) bytes = .ok result ↔
      ∃ middle left, reader bytes = .ok (middle, left) ∧ (function middle, left) = result := by
  change (reader bytes >>= fun read => pure (function read.1, read.2)) = .ok result ↔ _
  simp only [Outcome.bind_eq_ok, Outcome.pure_eq_ok, Prod.exists]

theorem throw_eq_ok {error : PathError} {result : value × Bytes} :
    (throw error : PathReader value) bytes = .ok result ↔ False := by
  change Except.error error = Except.ok result ↔ False
  simp

theorem liftM_eq_ok {verdict : Except PathError value} {result : value × Bytes} :
    (liftM verdict : PathReader value) bytes = .ok result ↔
      ∃ accepted, verdict = .ok accepted ∧ (accepted, bytes) = result := by
  change (verdict >>= fun accepted => pure (accepted, bytes)) = .ok result ↔ _
  simp only [Outcome.bind_eq_ok, Outcome.pure_eq_ok]

theorem guarded_eq_ok {condition : Prop} [Decidable condition] {error : PathError}
    {reader : PathReader value} {result : value × Bytes} :
    (if condition then (throw error : PathReader PUnit) >>= fun _ => reader else reader) bytes =
        .ok result ↔ ¬ condition ∧ reader bytes = .ok result := by
  by_cases refused : condition
  · simp only [refused, if_true, bind_eq_ok, throw_eq_ok, false_and, exists_false, not_true]
  · simp only [refused, if_false, not_false_eq_true, true_and]

theorem whole_eq_ok {trailing : PathError} {reader : PathReader value} {result : value} :
    whole trailing reader bytes = .ok result ↔ reader bytes = .ok (result, []) := by
  simp only [whole, Outcome.bind_eq_ok, Prod.exists, ite_eq_iff, Outcome.pure_eq_ok,
    Outcome.throw_eq_ok, and_false, or_false, List.isEmpty_iff]
  constructor
  · rintro ⟨_, _, read, rfl, rfl⟩
    exact read
  · intro read
    exact ⟨result, [], read, rfl, rfl⟩

theorem expect_eq_ok {tag : UInt8} {contents : Bytes} :
    expect tag bytes = .ok (contents, rest) ↔
      Strict.expect? tag bytes = some (contents, rest) := by
  unfold expect
  cases Strict.expect? tag bytes <;> simp

theorem sequence_eq_ok {contents : Bytes} :
    sequence bytes = .ok (contents, rest) ↔
      Strict.expect? Strict.sequenceTag bytes = some (contents, rest) :=
  expect_eq_ok

theorem nested_eq_ok {tag : UInt8} {fault : PathError} {inner : PathReader value}
    {result : value} :
    nested tag fault inner bytes = .ok (result, rest) ↔
      ∃ contents, Strict.expect? tag bytes = some (contents, rest) ∧
        inner contents = .ok (result, []) := by
  unfold nested
  cases found : Strict.expect? tag bytes with
  | none => simp
  | some read =>
      obtain ⟨contents, left⟩ := read
      simp only [Outcome.bind_eq_ok, whole_eq_ok, Outcome.pure_eq_ok, Prod.mk.injEq,
        Option.some.injEq]
      constructor
      · rintro ⟨_, read, rfl, rfl⟩
        exact ⟨contents, ⟨rfl, rfl⟩, read⟩
      · rintro ⟨_, ⟨rfl, rfl⟩, read⟩
        exact ⟨result, read, rfl, rfl⟩

theorem peek_eq_ok {tag : UInt8} {result : Bool × Bytes} :
    peek tag bytes = .ok result ↔ (bytes.head? == some tag, bytes) = result := by
  simp [peek]

theorem atEnd_eq_ok {result : Bool × Bytes} :
    atEnd bytes = .ok result ↔ (bytes.isEmpty, bytes) = result := by
  simp [atEnd]

theorem byte_eq_ok {fault : PathError} {octet : UInt8} :
    byte fault bytes = .ok (octet, rest) ↔ bytes = octet :: rest := by
  cases bytes with
  | nil => simp [byte]
  | cons found behind => simp [byte]

/-- A truth value stands in front, or there is none and it counts as false. -/
theorem boolean_eq_ok {result : Bool} (read : boolean bytes = .ok (result, rest)) :
    (bytes.head? ≠ some Strict.booleanTag ∧ result = false ∧ rest = bytes) ∨
      ∃ octet, Strict.expect? Strict.booleanTag bytes = some ([octet], rest) ∧
        (octet = 0xFF ∧ result = true ∨ octet = 0 ∧ result = false) := by
  simp only [boolean, bind_eq_ok, peek_eq_ok] at read
  obtain ⟨present, _, same, read⟩ := read
  obtain ⟨told, rfl⟩ := Prod.mk.inj same
  cases present with
  | false =>
      left
      obtain ⟨rfl, rfl⟩ := Prod.mk.inj (pure_eq_ok.1 read)
      exact ⟨beq_eq_false_iff_ne.1 told, rfl, rfl⟩
  | true =>
      right
      simp only [if_true, nested_eq_ok, bind_eq_ok, byte_eq_ok] at read
      obtain ⟨contents, found, octet, left, rfl, read⟩ := read
      split at read
      · rename_i full
        obtain ⟨rfl, rfl⟩ := Prod.mk.inj (pure_eq_ok.1 read)
        exact ⟨octet, found, Or.inl ⟨full, rfl⟩⟩
      · split at read
        · rename_i zero
          obtain ⟨rfl, rfl⟩ := Prod.mk.inj (pure_eq_ok.1 read)
          exact ⟨octet, found, Or.inr ⟨zero, rfl⟩⟩
        · exact (throw_eq_ok.1 read).elim

end CertScope.PathReader
