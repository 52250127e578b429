import SessionHub.Log.Directive

set_option autoImplicit false

/-! # Filters

A filter says which records are wanted. It is written as directives with commas between them. Of the
directives that are for a record the narrowest counts, and of two that are equally narrow the later
one. -/

namespace SessionHub

/-- A filter. -/
abbrev LogFilter := List Directive

namespace LogFilter

/-- The texts of the directives of a filter. -/
def parts (s : String) : List String :=
  (s.splitOn ",").filter (!·.isEmpty)

/-- Reads directives and leaves out what cannot be read. -/
def read (s : String) : LogFilter :=
  (parts s).filterMap Directive.read?

/-- What cannot be read. -/
def unreadable (s : String) : List String :=
  (parts s).filter fun part => (Directive.read? part).isNone

/-- Adds a directive. It comes later than the others. -/
def add (f : LogFilter) (d : Directive) : LogFilter :=
  f ++ [d]

/-- The narrowest directive for a record about a target that has given fields. -/
def narrowest? (f : LogFilter) (target : String) (fields : List String) : Option Directive :=
  (f.filter (·.covers target fields)).foldl
    (fun best d =>
      match best with
      | some b => if b.isNoNarrower d then some d else some b
      | none => some d)
    none

/-- Whether records of a level about a target that have given fields are wanted. -/
def admits (f : LogFilter) (target : String) (fields : List String) (level : Level) : Bool :=
  (f.narrowest? target fields).any fun d => d.threshold.admits level

end LogFilter

end SessionHub
