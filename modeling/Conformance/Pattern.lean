import Conformance.Pattern.Reader

/-!
# Patterns

A pattern is a text that denotes a regular expression. Two patterns are equal when they are written
the same.

## Main definitions

* `Pattern`: a text with its expression
* `Pattern.compile`: the pattern written as a text, or why the text is none
* `Pattern.foundIn`: some part of a text matches
-/

namespace Conformance

/-- A text together with the regular expression that it denotes. -/
structure Pattern where
  source : String
  expr : Regular Char
  read_source : Pattern.read source.toList = .ok expr

namespace Pattern

/-- The pattern written as `source`, or why it is none. -/
def compile (source : String) : Except Error Pattern :=
  match h : read source.toList with
  | .ok expr => .ok ⟨source, expr, h⟩
  | .error err => .error err

/-- Some part of the text matches the pattern. -/
def foundIn (p : Pattern) (text : String) : Bool :=
  p.expr.foundIn text.toList

/-- A pattern is determined by its source. -/
theorem eq_of_source_eq {p q : Pattern} (h : p.source = q.source) : p = q := by
  obtain ⟨s, e, hp⟩ := p
  obtain ⟨t, f, hq⟩ := q
  obtain rfl : s = t := h
  obtain rfl : e = f := Except.ok.inj (hp.symm.trans hq)
  rfl

instance : DecidableEq Pattern := fun p q =>
  if h : p.source = q.source then isTrue (eq_of_source_eq h)
  else isFalse fun e => h (congrArg source e)

/-- Compiling the source of a pattern gives the pattern back. -/
theorem compile_source (p : Pattern) : compile p.source = .ok p := by
  unfold compile
  split
  · next expr h => exact congrArg Except.ok (eq_of_source_eq rfl)
  · next err h =>
    rw [p.read_source] at h
    cases h

/-- A text compiles to a pattern with that source. -/
theorem source_of_compile {source : String} {p : Pattern} (h : compile source = .ok p) :
    p.source = source := by
  unfold compile at h
  split at h
  · obtain rfl := Except.ok.inj h
    rfl
  · cases h

/-- A text that does not compile is shown by the complaint about it as it is, with the parts that
are meant in order, unless it is too large. -/
theorem tooLarge_or_malformed_of_compile {source : String} {err : Error}
    (h : compile source = .error err) :
    err = .tooLarge extentLimit ∨
      ∃ problem spans, err = .malformed source problem spans ∧
        spans.Pairwise (Span.precedes · ·) := by
  unfold compile at h
  split at h
  · cases h
  · next err' hread =>
    obtain rfl := Except.error.inj h
    unfold read at hread
    cases htree : readTree source.toList with
    | ok tree =>
      rw [htree] at hread
      cases hread
    | error err =>
      rw [htree] at hread
      obtain rfl := Except.error.inj hread
      simpa using tooLarge_or_malformed_of_readTree htree

end Pattern

end Conformance
