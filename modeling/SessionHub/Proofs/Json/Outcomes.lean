import SessionHub.Json.Reading
import SessionHub.Proofs.Except

set_option autoImplicit false

/-! # Outcomes of reading

A reader goes through a text from the front. What it has decided before it came to the end of the
text, it decides also of a text that goes on from there. Some readers look at what follows only when
they need it, so that their outcome is the same but for the bytes that are left over, unless the
text breaks off in what they read (`Persists`). Others take as much as there is: a number that
stands at the end of a text may go on, and one that is too large may be scaled down by an exponent
that is yet to come. What their outcome tells is less (`Foretells`), but it is enough to read on. -/

namespace SessionHub

open Json (Failure)

namespace Json

variable {α β γ δ : Type}

/-! ## Outcomes that stay -/

/-- Whether a text came to its end before the reader was done. -/
def BreaksOff (outcome : Except Failure γ) : Prop :=
  ∃ inside, outcome = refuse (.endOfText inside)

/-- Whether a text is dealt with in the same way when it goes on, unless it breaks off: `later` is
    what `now` becomes, and `grow` adds to it the bytes that come after. -/
def Persists (grow : γ → γ) (now later : Except Failure γ) : Prop :=
  BreaksOff now ∨ later = now.map grow

/-- What was read from a text when `more` is left over. -/
def leaving (more : Bytes) (p : α × Bytes) : α × Bytes :=
  (p.1, p.2 ++ more)

theorem Persists.bind {grow : γ → γ} {grow' : δ → δ} {now later : Except Failure γ}
    {next : γ → Except Failure δ} (first : Persists grow now later)
    (others : ∀ v, Persists grow' (next v) (next (grow v))) :
    Persists grow' (now >>= next) (later >>= next) := by
  rcases first with ⟨inside, rfl⟩ | rfl
  · exact .inl ⟨inside, rfl⟩
  · cases now with
    | error failure => exact .inr rfl
    | ok v => exact others v

/-! ## Outcomes that tell what is to come -/

/-- What the outcome `now` of a text tells of the outcome `later` of the text with `more` behind it.
    Something that was read is read again, unless it may go on where the text ends, and what is
    `closed` does not. Something that was refused is not read as anything `plain`. -/
inductive Foretells (closed : Prop) (plain : α → Prop) (more : Bytes) :
    Except Failure (α × Bytes) → Except Failure (α × Bytes) → Prop where
  | breaksOff (inside : Unfinished) {later : Except Failure (α × Bytes)} :
    Foretells closed plain more (refuse (.endOfText inside)) later
  | read (v : α) (rest : Bytes) :
    Foretells closed plain more (.ok (v, rest)) (.ok (v, rest ++ more))
  | atEnd (v : α) {later : Except Failure (α × Bytes)} (goesOn : ¬ closed) :
    Foretells closed plain more (.ok (v, [])) later
  | refused (failure : Failure) {later : Except Failure (α × Bytes)}
    (never : ∀ v rest, later = .ok (v, rest) → ¬ plain v) :
    Foretells closed plain more (.error failure) later

/-- Whether what a reader makes of a text tells what it makes of any text that goes on from
    there. -/
def IsSteady (closed : Prop) (plain : α → Prop) (reader : Reader α) : Prop :=
  ∀ s more, Foretells closed plain more (reader s) (reader (s ++ more))

namespace Foretells

variable {closed closed' : Prop} {plain : α → Prop} {plain' : β → Prop} {more : Bytes}
  {now later : Except Failure (α × Bytes)}

/-- Where nothing plain can come, it is enough that what was read before the end is read again. -/
theorem of_never (never : ∀ v rest, later = .ok (v, rest) → ¬ plain v)
    (same : ∀ v rest, now = .ok (v, rest) → rest ≠ [] → later = .ok (v, rest ++ more)) :
    Foretells False plain more now later := by
  rcases now with failure | ⟨v, rest⟩
  · exact .refused failure never
  · by_cases left : rest = []
    · subst left
      exact .atEnd v id
    · rw [same v rest rfl left]
      exact .read v rest

/-- What may not go on may not go on where others may. -/
theorem weaken (h : Foretells True plain more now later) : Foretells closed plain more now later := by
  cases h with
  | breaksOff inside => exact .breaksOff inside
  | read v rest => exact .read v rest
  | atEnd v goesOn => exact absurd trivial goesOn
  | refused failure never => exact .refused failure never

/-- Reading on after something that persists. -/
theorem of_persists_bind {grow : γ → γ} {first first' : Except Failure γ}
    {next next' : γ → Except Failure (α × Bytes)} (same : Persists grow first first')
    (others : ∀ v, Foretells closed plain more (next v) (next' (grow v))) :
    Foretells closed plain more (first >>= next) (first' >>= next') := by
  rcases same with ⟨inside, rfl⟩ | rfl
  · exact .breaksOff inside
  · cases first with
    | error failure => exact .refused failure nofun
    | ok v => exact others v

/-- Reading on after something that may go on. Where the text ends after it, the next step has to
    say what may come; and what is read in the end is plain only if this was. -/
theorem bind (h : Foretells closed plain more now later)
    {next next' : α × Bytes → Except Failure (β × Bytes)}
    (others : ∀ v rest, Foretells closed' plain' more (next (v, rest)) (next' (v, rest ++ more)))
    (atEnd : ∀ v, ¬ closed → now = .ok (v, []) →
      Foretells closed' plain' more (next (v, [])) (later >>= next'))
    (kept : ∀ v rest b rest', next' (v, rest) = .ok (b, rest') → plain' b → plain v) :
    Foretells closed' plain' more (now >>= next) (later >>= next') := by
  cases h with
  | breaksOff inside => exact .breaksOff inside
  | read v rest => exact others v rest
  | atEnd v goesOn => exact atEnd v goesOn rfl
  | refused failure never =>
    refine .refused failure fun b rest' read plain => ?_
    obtain ⟨⟨v, rest⟩, first, second⟩ := bind_eq_ok.mp read
    exact never v rest first (kept v rest b rest' second plain)

/-- What was read to the end of something closed is read again. -/
theorem later_of_closed (h : Foretells True plain more now later) {v : α} {rest : Bytes}
    (read : now = .ok (v, rest)) : later = .ok (v, rest ++ more) := by
  cases h with
  | read v rest =>
    cases read
    rfl
  | atEnd v goesOn => exact absurd trivial goesOn
  | _ => cases read

/-- Before something plain was read, its text broke off. -/
theorem breaksOff_of_plain (h : Foretells closed plain more now later)
    (unread : ∀ p, now ≠ .ok p) {v : α} {rest : Bytes} (read : later = .ok (v, rest))
    (fine : plain v) : BreaksOff now := by
  cases h with
  | breaksOff inside => exact ⟨inside, rfl⟩
  | refused failure never => exact absurd fine (never v rest read)
  | _ => exact absurd rfl (unread _)

end Foretells

end Json

end SessionHub
