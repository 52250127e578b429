import SessionHub.Proofs.Json.Depth
import SessionHub.Proofs.Json.OpenNumbers

set_option autoImplicit false

/-! # Texts that go on

Words, strings, names and brackets show their end, so that a reader of them does not care what
follows (`readString_append`, `nextMember_append`). Only a number may go on where a text ends. A
reader of values is steady all the same, as far as no doubles come (`read_steady`): each element of
an array is followed by a comma or a bracket, and a text that ends after an element breaks off in
the array. -/

namespace SessionHub.Json

variable {α σ : Type}

/-! ## Blanks and marks -/

theorem skipBlank_append {s rest : Bytes} {b : UInt8} (found : skipBlank s = b :: rest)
    (more : Bytes) : skipBlank (s ++ more) = b :: (rest ++ more) := by
  induction s with
  | nil => cases found
  | cons c s ih =>
    simp only [List.cons_append, skipBlank] at found ⊢
    split at found
    · next blank => rw [if_pos blank, ih found]
    · next other =>
      cases found
      rw [if_neg other]

theorem skipBlank_eq_nil {s : Bytes} : skipBlank s = [] ↔ ∀ b ∈ s, Mark.isBlank b := by
  induction s with
  | nil => simp [skipBlank]
  | cons b s ih => by_cases blank : Mark.isBlank b <;> simp [skipBlank, blank, ih]

/-- Where a text goes on after blanks. -/
theorem skipBlank_eq_cons {s rest : Bytes} {b : UInt8} : skipBlank s = b :: rest ↔
    Mark.isBlank b = false ∧ ∃ before, (∀ c ∈ before, Mark.isBlank c) ∧ s = before ++ b :: rest := by
  induction s with
  | nil => simp [skipBlank]
  | cons c s ih =>
    rw [skipBlank]
    split
    · next blank =>
      rw [ih]
      refine and_congr_right fun other => ⟨?_, ?_⟩
      · rintro ⟨before, blanks, rfl⟩
        exact ⟨c :: before, List.forall_mem_cons.mpr ⟨blank, blanks⟩, rfl⟩
      · rintro ⟨before, blanks, same⟩
        cases before with
        | nil =>
          cases same
          rw [blank] at other
          cases other
        | cons d before =>
          cases same
          exact ⟨before, (List.forall_mem_cons.mp blanks).2, rfl⟩
    · next visible =>
      constructor
      · intro same
        cases same
        exact ⟨Bool.not_eq_true _ ▸ visible, [], by simp, rfl⟩
      · rintro ⟨-, before, blanks, same⟩
        cases before with
        | nil => exact same
        | cons d before =>
          cases same
          exact absurd (List.forall_mem_cons.mp blanks).1 visible

theorem readEnd_eq_ok {s : Bytes} : readEnd s = .ok () ↔ ∀ b ∈ s, Mark.isBlank b := by
  rw [← skipBlank_eq_nil]
  cases left : skipBlank s <;> simp [readEnd, left, refuse]

theorem readEnd_of_not_blank {s : Bytes} (other : ¬ ∀ b ∈ s, Mark.isBlank b) :
    readEnd s = refuse .trailingCharacters := by
  cases left : skipBlank s with
  | nil => exact absurd (skipBlank_eq_nil.mp left) other
  | cons b rest => rw [readEnd, left]

theorem readColon_append (s more : Bytes) :
    Persists (· ++ more) (readColon s) (readColon (s ++ more)) := by
  cases found : skipBlank s with
  | nil =>
    simp only [readColon, found]
    exact .inl ⟨.object, rfl⟩
  | cons b rest =>
    simp only [readColon, found, skipBlank_append found more]
    right
    split <;> rfl

theorem readWord_append (word s more : Bytes) :
    Persists (· ++ more) (readWord word s) (readWord word (s ++ more)) := by
  induction word generalizing s with
  | nil => exact .inr rfl
  | cons w word ih =>
    cases s with
    | nil => exact .inl ⟨.value, rfl⟩
    | cons b s =>
      simp only [List.cons_append, readWord]
      split
      · exact ih s
      · exact .inr rfl

/-! ## Strings -/

theorem readStringBytes_append (state : StringState) (s more : Bytes) :
    Persists (leaving more) (readStringBytes state s) (readStringBytes state (s ++ more)) := by
  induction s generalizing state with
  | nil => exact .inl ⟨.string, by cases state <;> rfl⟩
  | cons b s ih =>
    simp only [List.cons_append, readStringBytes]
    split
    · exact .inr rfl
    · cases stringStep state b with
      | error failure => exact .inr rfl
      | ok p => exact (ih p.2).bind fun v => .inr rfl

theorem readString_append (s more : Bytes) :
    Persists (leaving more) (readString s) (readString (s ++ more)) := by
  refine (readStringBytes_append .plain s more).bind fun v => .inr ?_
  simp only [leaving]
  cases v.1.text? <;> rfl

/-! ## Scalars -/

/-- Whether a byte begins a number. -/
def opensNumber (b : UInt8) : Bool :=
  b = Mark.minus || Digits.isDigit b

/-- A scalar that is no number shows its end. -/
theorem readToken_append {b : UInt8} (other : ¬ opensNumber b) (rest more : Bytes) :
    Persists (leaving more) (readToken b rest) (readToken b (rest ++ more)) := by
  have word : ∀ (v : Json) (text : Bytes), Persists (leaving more)
      (do .ok (v, ← readWord text rest) : Except Failure (Json × Bytes))
      (do .ok (v, ← readWord text (rest ++ more))) := fun v text =>
    (readWord_append text rest more).bind fun rest => .inr rfl
  unfold readToken
  split
  · exact word _ _
  · split
    · exact word _ _
    · split
      · exact word _ _
      · split
        · exact (readString_append rest more).bind fun v => .inr rfl
        · have other : ¬ (decide (b = Mark.minus) || Digits.isDigit b) = true := other
          rw [if_neg other, if_neg other]
          exact .inr rfl

theorem readToken_of_number {b : UInt8} (starts : opensNumber b) (rest : Bytes) :
    readToken b rest = Number.read (b :: rest) >>= fun p => .ok (number p.1, p.2) := by
  have other : b ≠ Bytes.ascii 'n' ∧ b ≠ Bytes.ascii 't' ∧ b ≠ Bytes.ascii 'f' ∧
      b ≠ Mark.quote := by
    simp only [opensNumber, Bool.or_eq_true, decide_eq_true_eq] at starts
    rcases starts with rfl | digit
    · decide
    · obtain ⟨n, hn, rfl⟩ := Digits.eq_ofNat_of_isDigit digit
      clear digit
      revert n
      decide
  obtain ⟨n, t, f, quote⟩ := other
  have starts : (decide (b = Mark.minus) || Digits.isDigit b) = true := starts
  rw [readToken, if_neg n, if_neg t, if_neg f, if_neg quote, if_pos starts]

/-- Making something of a scalar that was read leaves its end where it is. -/
theorem made_foretells {closed : Prop} {plain : α → Prop} (scalar : Json → Except Failure α)
    (v : Json) (rest more : Bytes) :
    Foretells closed plain more (made scalar v rest) (made scalar v (rest ++ more)) := by
  simp only [made]
  cases scalar v with
  | error failure =>
    refine .refused failure fun a rest' later => ?_
    cases later
  | ok a => exact .read a rest

/-- A scalar of any sort is steady, whatever is made of it, if numbers are dealt with alike: either
    none is taken, or all are, and what is plain is an integer. -/
theorem readToken_foretells {closed : Prop} {plain : α → Prop} {scalar : Json → Except Failure α}
    (open_ : closed → ∀ v a, scalar v ≠ .ok a)
    (numbers : ∀ n a, scalar (number n) = .ok a → plain a →
      n.IsInteger ∧ ∀ n', ∃ a', scalar (number n') = .ok a')
    (b : UInt8) (rest more : Bytes) :
    Foretells closed plain more (readToken b rest >>= fun p => made scalar p.1 p.2)
      (readToken b (rest ++ more) >>= fun p => made scalar p.1 p.2) := by
  by_cases starts : opensNumber b
  · simp only [readToken_of_number starts, bind_assoc]
    refine (Number.read_foretells (b :: rest) more).bind
      (fun n rest => made_foretells scalar (number n) rest more) (fun n _ _ => ?_)
      fun n rest a rest' settled fine => (numbers n a (made_eq_ok.mp settled).1 fine).1
    -- where one number is refused at the end of the text, no other is taken
    show Foretells closed plain more (made scalar (number n) []) _
    cases taken : scalar (number n) with
    | ok a =>
      rw [made_eq_ok.mpr ⟨taken, rfl⟩]
      exact .atEnd a fun shut => open_ shut _ _ taken
    | error failure =>
      rw [made, taken]
      refine .refused failure fun a rest' later fine => ?_
      obtain ⟨p, -, settled⟩ := bind_eq_ok.mp later
      obtain ⟨a', other⟩ := (numbers p.1 a (made_eq_ok.mp settled).1 fine).2 n
      cases taken.symm.trans other
  · refine .of_persists_bind (readToken_append starts rest more) fun p => ?_
    exact made_foretells scalar p.1 p.2 more

/-- A value of any sort is steady if brackets are. -/
theorem dispatch_steady {closed : Prop} {plain : α → Prop} {scalar : Json → Except Failure α}
    {array object : Reader α} (open_ : closed → ∀ v a, scalar v ≠ .ok a)
    (numbers : ∀ n a, scalar (number n) = .ok a → plain a →
      n.IsInteger ∧ ∀ n', ∃ a', scalar (number n') = .ok a')
    (inArray : IsSteady True plain array) (inObject : IsSteady True plain object) :
    IsSteady closed plain (dispatch scalar array object) := by
  intro s more
  cases found : skipBlank s with
  | nil =>
    rw [dispatch, found]
    exact .breaksOff .value
  | cons b rest =>
    rw [dispatch_of_value found, dispatch_of_value (skipBlank_append found more)]
    split
    · exact (inArray rest more).weaken
    · split
      · exact (inObject rest more).weaken
      · exact readToken_foretells open_ numbers b rest more

/-! ## Brackets -/

/-- Where an array goes on when `more` comes after it. -/
def NextElement.leaving (more : Bytes) : NextElement → NextElement
  | closed rest => closed (rest ++ more)
  | element s => element (s ++ more)

/-- Where an object goes on when `more` comes after it. -/
def NextMember.leaving (more : Bytes) : NextMember → NextMember
  | closed rest => closed (rest ++ more)
  | member name rest => member name (rest ++ more)

theorem nextElement_append (first : Bool) (s more : Bytes) :
    Persists (NextElement.leaving more) (nextElement first s) (nextElement first (s ++ more)) := by
  cases found : skipBlank s with
  | nil =>
    rw [nextElement, found]
    exact .inl ⟨.list, rfl⟩
  | cons b rest =>
    simp only [nextElement, found, skipBlank_append found more]
    split
    · exact .inr rfl
    · split
      · exact .inr rfl
      · split
        · cases after : skipBlank rest with
          | nil => exact .inl ⟨.value, rfl⟩
          | cons c rest =>
            simp only [skipBlank_append after more]
            right
            split <;> rfl
        · exact .inr rfl

theorem nextMember_name_append (s more : Bytes) :
    Persists (NextMember.leaving more) (nextMember.name s) (nextMember.name (s ++ more)) :=
  (readString_append s more).bind fun _ => .inr rfl

theorem nextMember_append (first : Bool) (s more : Bytes) :
    Persists (NextMember.leaving more) (nextMember first s) (nextMember first (s ++ more)) := by
  cases found : skipBlank s with
  | nil =>
    rw [nextMember, found]
    exact .inl ⟨.object, rfl⟩
  | cons b rest =>
    simp only [nextMember, found, skipBlank_append found more]
    split
    · exact .inr rfl
    · split
      · split
        · exact nextMember_name_append rest more
        · exact .inr rfl
      · split
        · cases after : skipBlank rest with
          | nil => exact .inl ⟨.value, rfl⟩
          | cons c rest =>
            simp only [skipBlank_append after more]
            split
            · exact nextMember_name_append rest more
            · right
              split <;> rfl
        · exact .inr rfl

section Elements

variable {closed : Prop} {plain : α → Prop} {element : Reader α}

/-- An array shows its end. It is plain if all its elements are. -/
theorem readElements_foretells (steady : IsSteady closed plain element) (more : Bytes)
    (fuel fuel' : Nat) (enough : fuel ≤ fuel') (first : Bool) (s : Bytes) :
    Foretells True (fun vs => ∀ v ∈ vs, plain v) more (readElements element fuel first s)
      (readElements element fuel' first (s ++ more)) := by
  induction fuel generalizing fuel' first s with
  | zero => exact .breaksOff .list
  | succ fuel ih =>
    obtain ⟨fuel', rfl⟩ := Nat.exists_eq_add_one_of_ne_zero (Nat.ne_zero_of_lt enough)
    refine .of_persists_bind (nextElement_append first s more) fun next => ?_
    cases next with
    | closed rest => exact .read [] rest
    | element s =>
      refine (steady s more).bind (fun v rest => ?_) (fun _ _ _ => ?_)
        fun v rest vs rest' read fine => ?_
      · refine (ih fuel' (Nat.le_of_succ_le_succ enough) false rest).bind
          (fun vs rest => .read (v :: vs) rest) (fun _ goesOn _ => absurd trivial goesOn)
          fun vs rest vs' rest' read fine w there => ?_
        cases read
        exact fine w (List.mem_cons_of_mem v there)
      · -- after an element there is always something to come
        have ended : readElements element fuel false [] = refuse (.endOfText .list) := by
          cases fuel <;> rfl
        simp only [ended]
        exact .breaksOff .list
      · obtain ⟨⟨vs', rest''⟩, -, same⟩ := bind_eq_ok.mp read
        cases same
        exact fine v List.mem_cons_self

theorem readArray_steady (steady : IsSteady closed plain element) :
    IsSteady True (fun vs => ∀ v ∈ vs, plain v) (readArray element) := by
  intro s more
  refine readElements_foretells steady more _ _ ?_ true s
  simp

end Elements

section Members

variable {closed : Prop} {plain : σ → Prop} {member : σ → String → Reader σ}

/-- What was gathered is plain if it is plain in the end. -/
theorem plain_of_readMembers (kept : ∀ acc name s acc' rest,
      member acc name s = .ok (acc', rest) → plain acc' → plain acc)
    (fuel : Nat) {first : Bool} {acc acc' : σ} {s rest : Bytes}
    (read : readMembers member fuel first acc s = .ok (acc', rest)) (fine : plain acc') :
    plain acc := by
  have before : ∀ acc' name, (plain acc' → plain acc) →
      Gives (member acc' name) fun acc'' => plain acc'' → plain acc :=
    fun acc' name earlier s acc'' rest one fine => earlier (kept acc' name s acc'' rest one fine)
  exact gives_readMembers before fuel first id s acc' rest read fine

/-- An object shows its end. -/
theorem readMembers_foretells (steady : ∀ acc name, IsSteady closed plain (member acc name))
    (kept : ∀ acc name s acc' rest,
      member acc name s = .ok (acc', rest) → plain acc' → plain acc)
    (more : Bytes) (fuel fuel' : Nat) (enough : fuel ≤ fuel') (first : Bool) (acc : σ) (s : Bytes) :
    Foretells True plain more (readMembers member fuel first acc s)
      (readMembers member fuel' first acc (s ++ more)) := by
  induction fuel generalizing fuel' first acc s with
  | zero => exact .breaksOff .object
  | succ fuel ih =>
    obtain ⟨fuel', rfl⟩ := Nat.exists_eq_add_one_of_ne_zero (Nat.ne_zero_of_lt enough)
    refine .of_persists_bind (nextMember_append first s more) fun next => ?_
    cases next with
    | closed rest => exact .read acc rest
    | member name s =>
      refine (steady acc name s more).bind (fun acc' rest => ?_) (fun acc' _ _ => ?_)
        fun acc' rest final rest' read fine => ?_
      · exact ih fuel' (Nat.le_of_succ_le_succ enough) false acc' rest
      · have ended : readMembers member fuel false acc' [] = refuse (.endOfText .object) := by
          cases fuel <;> rfl
        simp only [ended]
        exact .breaksOff .object
      · exact plain_of_readMembers kept fuel' read fine

theorem readObject_steady (steady : ∀ acc name, IsSteady closed plain (member acc name))
    (kept : ∀ acc name s acc' rest,
      member acc name s = .ok (acc', rest) → plain acc' → plain acc) (acc : σ) :
    IsSteady True plain (readObject member acc) := by
  intro s more
  refine readMembers_foretells steady kept more _ _ ?_ true acc s
  simp

end Members

/-! ## Values -/

theorem floatFreeMembers_concat {members : List (String × Json)} {m : String × Json} :
    floatFreeMembers (members ++ [m]) ↔ floatFreeMembers members ∧ m.2.floatFree := by
  simp [floatFreeMembers_iff, or_imp, forall_and]

/-- A member of an object is steady if its value is. -/
theorem readMember_steady {value : Reader Json} (steady : IsSteady False (fun v => v.floatFree) value)
    (acc : List (String × Json)) (name : String) :
    IsSteady False (fun members => floatFreeMembers members) (readMember value acc name) := by
  intro s more
  refine .of_persists_bind (readColon_append s more) fun s => ?_
  refine (steady s more).bind (fun v rest => .read _ rest) (fun v _ _ => .atEnd _ id)
    fun v rest members rest' made fine => ?_
  cases made
  exact (floatFreeMembers_concat.mp fine).2

/-- A member that was read comes after those before it. -/
theorem floatFree_of_readMember {value : Reader Json} {acc acc' : List (String × Json)}
    {name : String} {s rest : Bytes} (read : readMember value acc name s = .ok (acc', rest))
    (free : floatFreeMembers acc') : floatFreeMembers acc := by
  obtain ⟨s', -, read⟩ := bind_eq_ok.mp read
  obtain ⟨p, -, same⟩ := bind_eq_ok.mp read
  cases same
  exact (floatFreeMembers_concat.mp free).1

/-- A reader of values decides on what it has seen of them, doubles apart. -/
theorem read_steady (budget : Nat) : IsSteady False (fun v => v.floatFree) (read budget) := by
  have numbers : ∀ (n : Number) (v : Json), Except.ok (ε := Failure) (number n) = .ok v →
      v.floatFree → n.IsInteger ∧ ∀ n', ∃ v', Except.ok (ε := Failure) (number n') = .ok v' := by
    intro n v same free
    cases same
    exact ⟨by cases n <;> simp_all [Number.IsInteger, floatFree], fun n' => ⟨_, rfl⟩⟩
  induction budget with
  | zero =>
    exact dispatch_steady nofun numbers (fun _ _ => .refused _ nofun) fun _ _ => .refused _ nofun
  | succ budget ih =>
    refine dispatch_steady nofun numbers (fun s more => ?_) fun s more => ?_
    · refine (readArray_steady ih s more).bind (fun vs rest => .read _ rest)
        (fun _ goesOn _ => absurd trivial goesOn) fun vs rest v rest' made fine => ?_
      cases made
      exact floatFreeElements_iff.mp fine
    · refine (readObject_steady (readMember_steady ih)
          (fun _ _ _ _ _ => floatFree_of_readMember) [] s more).bind (fun members rest => .read _ rest)
        (fun _ goesOn _ => absurd trivial goesOn) fun members rest v rest' made fine => ?_
      cases made
      exact fine

end SessionHub.Json
