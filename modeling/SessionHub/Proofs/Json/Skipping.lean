import SessionHub.Proofs.Json.SkippedTokens

set_option autoImplicit false

/-! # Values that are skipped

The scanner keeps a stack of open brackets where the reader of values recurses. Wherever a value can
be read it can be skipped, and the scanner stops where the reader does (`skip_of_read`). `IsPassed`
says what the scanner does in front of a value and `IsClosed` what it does behind one; both count
the steps that are taken, so that the fuel of the scanner is known to be enough. -/

namespace SessionHub.Json

/-! ## Steps of the scanner -/

/-- The byte that opens a bracket. -/
def Bracket.opening : Bracket → UInt8
  | list => Mark.openArray
  | object => Mark.openObject

section Steps

variable {fuel : Nat} {bracket : Bracket} {brackets : List Bracket} {s r rest : Bytes} {b : UInt8}

theorem skipOn_value_scalar (found : skipBlank s = b :: r) (array : b ≠ Mark.openArray)
    (object : b ≠ Mark.openObject) (skipped : skipScalar b r = .ok rest) :
    skipOn (fuel + 1) .value brackets s = skipOn fuel .finished brackets rest := by
  simp only [skipOn, found, if_neg array, if_neg object, skipped]
  rfl

theorem skipOn_value_opening (found : skipBlank s = bracket.opening :: r) :
    skipOn (fuel + 1) .value brackets s = skipOn fuel .opened (bracket :: brackets) r := by
  cases bracket <;> simp only [skipOn, found] <;> rfl

theorem skipOn_opened_closing (found : skipBlank s = bracket.closing :: rest) :
    skipOn (fuel + 1) .opened (bracket :: brackets) s = skipOn fuel .finished brackets rest := by
  simp only [skipOn, found, if_true]

theorem skipOn_opened_name (found : skipBlank s = b :: r) (other : b ≠ bracket.closing)
    (name : bracket.skipName (b :: r) = .ok rest) :
    skipOn (fuel + 1) .opened (bracket :: brackets) s =
      skipOn fuel .value (bracket :: brackets) rest := by
  simp only [skipOn, found, if_neg other, name]
  rfl

theorem skipOn_finished_closing (found : skipBlank s = bracket.closing :: rest) :
    skipOn (fuel + 1) .finished (bracket :: brackets) s = skipOn fuel .finished brackets rest := by
  have other : bracket.closing ≠ Mark.comma := by cases bracket <;> decide
  simp only [skipOn, found, if_neg other, if_true]

theorem skipOn_finished_comma (found : skipBlank s = Mark.comma :: r)
    (name : bracket.skipName r = .ok rest) :
    skipOn (fuel + 1) .finished (bracket :: brackets) s =
      skipOn fuel .value (bracket :: brackets) rest := by
  simp only [skipOn, found, if_true, name]
  rfl

end Steps

/-! ## Values and brackets -/

/-- Whether the scanner passes over a value at the front of `s` and stops at `rest`, whatever
    brackets are open around it. It takes at most two steps for each byte of the value. -/
def IsPassed (s rest : Bytes) : Prop :=
  ∃ n, n + 2 * rest.length < 2 * s.length ∧ ∀ brackets fuel,
    skipOn (fuel + n + 1) .value brackets s = skipOn fuel .finished brackets rest

/-- Whether the scanner, behind a value in a bracket, passes over all that is left in the bracket
    and stops at `rest`. -/
def IsClosed (bracket : Bracket) (s rest : Bytes) : Prop :=
  ∃ n, n + 2 * rest.length ≤ 2 * s.length ∧ ∀ brackets fuel,
    skipOn (fuel + n) .finished (bracket :: brackets) s = skipOn fuel .finished brackets rest

section Brackets

variable {bracket : Bracket} {s s' r r' rest : Bytes} {b : UInt8}

/-- Blanks in front of a value do not matter. -/
theorem IsPassed.of_skipBlank (found : skipBlank s = s') (passed : IsPassed s' rest) :
    IsPassed s rest := by
  obtain ⟨n, steps, passed⟩ := passed
  have shorter := length_skipBlank_le s
  rw [found] at shorter
  have again : skipBlank s' = skipBlank s := by
    cases s' with
    | nil => exact found.symm
    | cons b s' => exact (skipBlank_of_not_blank (skipBlank_eq_cons.mp found).1 s').trans found.symm
  refine ⟨n, by omega, fun brackets fuel => (Eq.trans ?_ (passed brackets fuel))⟩
  simp only [skipOn, again]

theorem isPassed_scalar (found : skipBlank s = b :: r) (array : b ≠ Mark.openArray)
    (object : b ≠ Mark.openObject) (skipped : skipScalar b r = .ok rest) : IsPassed s rest := by
  have length := length_lt_of_skipBlank found
  have shorter := length_skipScalar_le skipped
  exact ⟨0, by omega, fun brackets fuel => skipOn_value_scalar found array object skipped⟩

theorem isPassed_empty (bracket : Bracket) (opened : skipBlank s = bracket.opening :: r)
    (closed : skipBlank r = bracket.closing :: rest) : IsPassed s rest := by
  have length := length_lt_of_skipBlank opened
  have shorter := length_lt_of_skipBlank closed
  refine ⟨1, by omega, fun brackets fuel => ?_⟩
  rw [skipOn_value_opening opened, skipOn_opened_closing closed]

/-- A bracket is passed over by its first value and what comes behind it. -/
theorem isPassed_bracket (bracket : Bracket) (opened : skipBlank s = bracket.opening :: r)
    (found : skipBlank r = b :: r') (other : b ≠ bracket.closing) {front : Bytes}
    (name : bracket.skipName (b :: r') = .ok front) (first : IsPassed front s')
    (others : IsClosed bracket s' rest) : IsPassed s rest := by
  obtain ⟨n, steps, first⟩ := first
  obtain ⟨n', steps', others⟩ := others
  have length := length_lt_of_skipBlank opened
  have shorter := length_lt_of_skipBlank found
  have shorter' := length_skipName_le name
  rw [List.length_cons] at shorter'
  refine ⟨n' + n + 2, by omega, fun brackets fuel => ?_⟩
  have sum : fuel + (n' + n + 2) + 1 = fuel + n' + n + 1 + 1 + 1 := by omega
  calc skipOn (fuel + (n' + n + 2) + 1) .value brackets s
    _ = skipOn (fuel + n' + n + 1 + 1 + 1) .value brackets s := by rw [sum]
    _ = skipOn (fuel + n' + n + 1 + 1) .opened (bracket :: brackets) r :=
        skipOn_value_opening opened
    _ = skipOn (fuel + n' + n + 1) .value (bracket :: brackets) front :=
        skipOn_opened_name found other name
    _ = skipOn (fuel + n') .finished (bracket :: brackets) s' := first _ _
    _ = skipOn fuel .finished brackets rest := others brackets fuel

theorem isClosed_closing (found : skipBlank s = bracket.closing :: rest) :
    IsClosed bracket s rest := by
  have length := length_lt_of_skipBlank found
  exact ⟨1, by omega, fun brackets fuel => skipOn_finished_closing found⟩

/-- Behind a value there may be a comma, another value, and what comes behind that. -/
theorem isClosed_comma (found : skipBlank s = Mark.comma :: r) (name : bracket.skipName r = .ok r')
    (next : IsPassed r' s') (others : IsClosed bracket s' rest) : IsClosed bracket s rest := by
  obtain ⟨n, steps, next⟩ := next
  obtain ⟨n', steps', others⟩ := others
  have length := length_lt_of_skipBlank found
  have shorter := length_skipName_le name
  refine ⟨n' + n + 2, by omega, fun brackets fuel => ?_⟩
  have sum : fuel + (n' + n + 2) = fuel + n' + n + 1 + 1 := by omega
  calc skipOn (fuel + (n' + n + 2)) .finished (bracket :: brackets) s
    _ = skipOn (fuel + n' + n + 1 + 1) .finished (bracket :: brackets) s := by rw [sum]
    _ = skipOn (fuel + n' + n + 1) .value (bracket :: brackets) r' :=
        skipOn_finished_comma found name
    _ = skipOn (fuel + n') .finished (bracket :: brackets) s' := next _ _
    _ = skipOn fuel .finished brackets rest := others brackets fuel

end Brackets

/-! ## What is read is skipped -/

section Elements

variable {α : Type} {element : Reader α} {s r rest : Bytes} {vs : List α}

theorem nextElement_closed {first : Bool} (next : nextElement first s = .ok (.closed rest)) :
    skipBlank s = Mark.closeArray :: rest := by
  unfold nextElement at next
  split at next
  · cases next
  · next b r found =>
    split at next
    · next closing =>
      cases next
      rw [found, closing]
    · split at next
      · cases next
      · split at next
        · split at next
          · cases next
          · split at next <;> cases next
        · cases next

theorem nextElement_first (next : nextElement true s = .ok (.element rest)) :
    skipBlank s = rest ∧ ∃ b r, rest = b :: r ∧ b ≠ Mark.closeArray := by
  unfold nextElement at next
  split at next
  · cases next
  · next b r found =>
    split at next
    · cases next
    · next other =>
      cases next
      exact ⟨found, b, r, rfl, other⟩

theorem nextElement_more (next : nextElement false s = .ok (.element rest)) :
    ∃ r, skipBlank s = Mark.comma :: r ∧ skipBlank r = rest := by
  unfold nextElement at next
  split at next
  · cases next
  · next b r found =>
    split at next
    · cases next
    · rw [if_neg Bool.false_ne_true] at next
      split at next
      · next comma =>
        refine ⟨r, comma ▸ found, ?_⟩
        split at next
        · cases next
        · next c r' after =>
          split at next
          · cases next
          · cases next
            exact after
      · cases next

/-- The elements behind the first are passed over if each element is. -/
theorem isClosed_of_readElements
    (each : ∀ s v rest, element s = .ok (v, rest) → IsPassed s rest) (fuel : Nat)
    (read : readElements element fuel false s = .ok (vs, rest)) : IsClosed .list s rest := by
  induction fuel generalizing s vs with
  | zero => cases read
  | succ fuel ih =>
    obtain ⟨next, found, read⟩ := bind_eq_ok.mp read
    cases next with
    | closed rest' =>
      cases read
      exact isClosed_closing (nextElement_closed found)
    | element s' =>
      obtain ⟨⟨v, s''⟩, one, read⟩ := bind_eq_ok.mp read
      obtain ⟨⟨more, last⟩, others, same⟩ := bind_eq_ok.mp read
      cases same
      obtain ⟨r, comma, after⟩ := nextElement_more found
      exact isClosed_comma comma rfl (.of_skipBlank after (each s' v s'' one)) (ih others)

theorem isPassed_of_readArray
    (each : ∀ s v rest, element s = .ok (v, rest) → IsPassed s rest)
    (opened : skipBlank s = Mark.openArray :: r) (read : readArray element r = .ok (vs, rest)) :
    IsPassed s rest := by
  obtain ⟨next, found, read⟩ := bind_eq_ok.mp read
  cases next with
  | closed rest' =>
    cases read
    exact isPassed_empty .list opened (nextElement_closed found)
  | element s' =>
    obtain ⟨⟨v, s''⟩, one, read⟩ := bind_eq_ok.mp read
    obtain ⟨⟨more, last⟩, others, same⟩ := bind_eq_ok.mp read
    cases same
    obtain ⟨after, b, r', rfl, other⟩ := nextElement_first found
    exact isPassed_bracket .list opened after other rfl (each _ v s'' one)
      (isClosed_of_readElements each _ others)

end Elements

section Members

variable {σ : Type} {member : σ → String → Reader σ} {acc acc' : σ} {s r rest : Bytes}

theorem nextMember_name {next : NextMember} (read : nextMember.name s = .ok next) :
    ∃ name rest, next = .member name rest ∧ readString s = .ok (name, rest) := by
  obtain ⟨⟨name, rest⟩, string, same⟩ := bind_eq_ok.mp read
  cases same
  exact ⟨name, rest, rfl, string⟩

theorem nextMember_closed {first : Bool} (next : nextMember first s = .ok (.closed rest)) :
    skipBlank s = Mark.closeObject :: rest := by
  have named : ∀ {r : Bytes}, nextMember.name r ≠ .ok (.closed rest) := by
    intro r read
    obtain ⟨_, _, same, -⟩ := nextMember_name read
    cases same
  unfold nextMember at next
  split at next
  · cases next
  · next b r found =>
    split at next
    · next closing =>
      cases next
      rw [found, closing]
    · split at next
      · split at next
        · exact absurd next named
        · cases next
      · split at next
        · split at next
          · cases next
          · split at next
            · exact absurd next named
            · split at next <;> cases next
        · cases next

theorem nextMember_first {name : String} (next : nextMember true s = .ok (.member name rest)) :
    ∃ r, skipBlank s = Mark.quote :: r ∧ readString r = .ok (name, rest) := by
  unfold nextMember at next
  split at next
  · cases next
  · next b r found =>
    split at next
    · cases next
    · rw [if_pos rfl] at next
      split at next
      · next quote =>
        obtain ⟨_, _, same, string⟩ := nextMember_name next
        cases same
        exact ⟨r, quote ▸ found, string⟩
      · cases next

theorem nextMember_more {name : String} (next : nextMember false s = .ok (.member name rest)) :
    ∃ r r', skipBlank s = Mark.comma :: r ∧ skipBlank r = Mark.quote :: r' ∧
      readString r' = .ok (name, rest) := by
  unfold nextMember at next
  split at next
  · cases next
  · next b r found =>
    split at next
    · cases next
    · rw [if_neg Bool.false_ne_true] at next
      split at next
      · next comma =>
        split at next
        · cases next
        · next c r' after =>
          split at next
          · next quote =>
            obtain ⟨_, _, same, string⟩ := nextMember_name next
            cases same
            exact ⟨r, r', comma ▸ found, quote ▸ after, string⟩
          · split at next <;> cases next
      · cases next

/-- A name that is read, and the colon behind it, are passed over. -/
theorem skipName_of_readString {name : String} {r' : Bytes} (found : skipBlank s = Mark.quote :: r)
    (string : readString r = .ok (name, r')) (colon : readColon r' = .ok rest) :
    Bracket.object.skipName s = .ok rest := by
  simp only [Bracket.skipName, found, if_true, skipString_of_readString string]
  exact colon

/-- The members behind the first are passed over if each of them is a colon and a value that is
    passed over. -/
theorem isClosed_of_readMembers
    (each : ∀ acc name s acc' rest, member acc name s = .ok (acc', rest) →
      ∃ s', readColon s = .ok s' ∧ IsPassed s' rest) (fuel : Nat)
    (read : readMembers member fuel false acc s = .ok (acc', rest)) : IsClosed .object s rest := by
  induction fuel generalizing s acc with
  | zero => cases read
  | succ fuel ih =>
    obtain ⟨next, found, read⟩ := bind_eq_ok.mp read
    cases next with
    | closed rest' =>
      cases read
      exact isClosed_closing (nextMember_closed found)
    | member name s' =>
      obtain ⟨⟨acc'', s''⟩, one, others⟩ := bind_eq_ok.mp read
      obtain ⟨r, r', comma, quote, string⟩ := nextMember_more found
      obtain ⟨v, colon, passed⟩ := each acc name s' acc'' s'' one
      exact isClosed_comma comma (skipName_of_readString quote string colon) passed (ih others)

theorem isPassed_of_readObject
    (each : ∀ acc name s acc' rest, member acc name s = .ok (acc', rest) →
      ∃ s', readColon s = .ok s' ∧ IsPassed s' rest)
    (opened : skipBlank s = Mark.openObject :: r)
    (read : readObject member acc r = .ok (acc', rest)) : IsPassed s rest := by
  obtain ⟨next, found, read⟩ := bind_eq_ok.mp read
  cases next with
  | closed rest' =>
    cases read
    exact isPassed_empty .object opened (nextMember_closed found)
  | member name s' =>
    obtain ⟨⟨acc'', s''⟩, one, others⟩ := bind_eq_ok.mp read
    obtain ⟨r', quote, string⟩ := nextMember_first found
    obtain ⟨v, colon, passed⟩ := each acc name s' acc'' s'' one
    have start : skipBlank (Mark.quote :: r') = Mark.quote :: r' := rfl
    exact isPassed_bracket .object opened quote (by decide)
      (skipName_of_readString start string colon) passed (isClosed_of_readMembers each _ others)

end Members

/-- A value of any sort that is read is passed over if brackets are. -/
theorem isPassed_of_dispatch {α : Type} {scalar : Json → Except Failure α} {array object : Reader α}
    (inArray : ∀ s r a rest, skipBlank s = Mark.openArray :: r → array r = .ok (a, rest) →
      IsPassed s rest)
    (inObject : ∀ s r a rest, skipBlank s = Mark.openObject :: r → object r = .ok (a, rest) →
      IsPassed s rest)
    {s rest : Bytes} {a : α} (read : dispatch scalar array object s = .ok (a, rest)) :
    IsPassed s rest := by
  cases found : skipBlank s with
  | nil =>
    rw [dispatch, found] at read
    cases read
  | cons b r =>
    rw [dispatch_of_value found] at read
    split at read
    · next open_ => exact inArray s r a rest (open_ ▸ found) read
    · next open_ =>
      split at read
      · next open_ => exact inObject s r a rest (open_ ▸ found) read
      · next open_' =>
        obtain ⟨⟨v, rest'⟩, token, settled⟩ := bind_eq_ok.mp read
        obtain ⟨-, rfl⟩ := made_eq_ok.mp settled
        exact isPassed_scalar found open_ open_' (skipScalar_of_readToken token)

theorem isPassed_of_read (budget : Nat) {s rest : Bytes} {v : Json}
    (read : read budget s = .ok (v, rest)) : IsPassed s rest := by
  induction budget generalizing s v rest with
  | zero =>
    refine isPassed_of_dispatch (fun _ _ _ _ _ => ?_) (fun _ _ _ _ _ => ?_) read
    · exact nofun
    · exact nofun
  | succ budget ih =>
    refine isPassed_of_dispatch (fun s r v rest opened read => ?_)
      (fun s r v rest opened read => ?_) read
    · obtain ⟨⟨elements, s'⟩, inside, same⟩ := bind_eq_ok.mp read
      cases same
      exact isPassed_of_readArray (fun s v rest => ih) opened inside
    · obtain ⟨⟨members, s'⟩, inside, same⟩ := bind_eq_ok.mp read
      cases same
      refine isPassed_of_readObject (fun acc name s acc' rest read => ?_) opened inside
      obtain ⟨s', colon, read⟩ := bind_eq_ok.mp read
      obtain ⟨p, one, same⟩ := bind_eq_ok.mp read
      cases same
      exact ⟨s', colon, ih one⟩

/-- What can be read can be skipped, and the same bytes are left over. -/
theorem skip_of_read {budget : Nat} {s rest : Bytes} {v : Json}
    (read : read budget s = .ok (v, rest)) : skip s = .ok rest := by
  obtain ⟨n, steps, passed⟩ := isPassed_of_read budget read
  obtain ⟨fuel, enough⟩ : ∃ fuel, 2 * s.length + 2 = fuel + 1 + n + 1 :=
    ⟨2 * s.length - n - 1 + 1, by omega⟩
  rw [skip, enough, passed]
  rfl

/-- A value without doubles is skipped as it is written, however deep it nests. -/
theorem skip_write {v : Json} (free : v.floatFree) {rest : Bytes} (apart : Apart rest) :
    skip (v.write ++ rest) = .ok rest :=
  skip_of_read (read_write v v.nesting rest free (Nat.le_refl _) apart)

end SessionHub.Json
