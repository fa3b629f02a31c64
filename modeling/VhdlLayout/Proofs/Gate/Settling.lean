import Mathlib
import VhdlLayout.Proofs.Gate.Preservation
import VhdlLayout.Proofs.Token.Relayout

/-!
# Verified writes settle

What comes of a verified write is known from the text that the document is laid out as: whether
it parts from the original, whether it is the original, and whether it can be written. In each
case it is known as well what the file holds then.

If the write succeeds, the file holds that text, be it that it has been written or that it
was there before. A text never parts from itself, not even one that is full of lexical errors
(`divergence?_self`): the tokens of the broken pieces are compared like any others. So all
further verified writes of the same document find nothing to do:

* `Files.rewriteVerifiedBy_of_print_eq`: the step, one more verified write;
* `Files.Repeats.settled`: by induction, any number of them;
* `Files.rewriteVerifiedBy_settles`: what comes of the first write and of those behind it.
-/

namespace VhdlLayout

theorem Doc.format_eq_error_iff {d : Doc} {original : String} {o : Options} {e : Divergence} :
    d.format original o = .error e ↔ divergence? original (d.print o) = some e := by
  rw [format]
  split <;> simp_all

/-- A document is given out if the original is laid out like it already. -/
theorem Doc.format_print (d : Doc) (o : Options) : d.format (d.print o) o = .ok (d.print o) :=
  format_eq_ok_iff.2 ⟨divergence?_self _, rfl⟩

namespace Files

variable {write : Writer} {files files' : Files} {path original : String} {d : Doc} {o : Options}

/-- A text that parts from the original is refused. -/
theorem rewriteVerifiedBy_of_divergence? {e : Divergence}
    (h : divergence? original (d.print o) = some e) :
    files.rewriteVerifiedBy write path original d o = (.error (.diverges e), files) := by
  rw [rewriteVerifiedBy, Doc.format_eq_error_iff.2 h]

/-- Nothing is done if the file is laid out already. -/
theorem rewriteVerifiedBy_of_print_eq (h : d.print o = original) :
    files.rewriteVerifiedBy write path original d o = (.ok .unchanged, files) := by
  subst h
  rw [rewriteVerifiedBy, Doc.format_print]
  exact if_pos rfl

/-- Any other text is written, and what comes of that is what comes of it all. -/
theorem rewriteVerifiedBy_of_print_ne (h : divergence? original (d.print o) = none)
    (hne : d.print o ≠ original) :
    files.rewriteVerifiedBy write path original d o =
      match write files path (d.print o) with
      | .error e => (.error (.unwritable path e), files)
      | .ok after => (.ok .written, after) := by
  rw [rewriteVerifiedBy, Doc.format_eq_ok_iff.2 ⟨h, rfl⟩]
  exact if_neg hne

/-- After a verified write that succeeds the file holds what the document is laid out as. -/
theorem read_of_rewriteVerifiedBy {outcome : Outcome} (hw : write.IsFaithful)
    (hread : files.read path = .ok original)
    (h : files.rewriteVerifiedBy write path original d o = (.ok outcome, files')) :
    files'.read path = .ok (d.print o) := by
  rcases rewriteVerifiedBy_cases write files path original d o with
    ⟨_, _, hcase⟩ | ⟨hformat, hcase⟩ | ⟨_, _, _, _, _, hcase⟩ | ⟨text, after, hformat, _, hok, hcase⟩
  all_goals obtain ⟨houtcome, rfl⟩ := Prod.mk.inj (h.symm.trans hcase)
  · cases houtcome
  · rw [hread, (Doc.format_eq_ok_iff.1 hformat).2]
  · cases houtcome
  · rw [hw hok, (Doc.format_eq_ok_iff.1 hformat).2]

/-! ## The same document again -/

/-- The same document is written to the file at `path` again and again, each time with what the file
holds as the original, and whichever way the system writes. -/
inductive Repeats (path : String) (d : Doc) (o : Options) :
    Files → List (Except Refusal Outcome) → Files → Prop
  | nil (files : Files) : Repeats path d o files [] files
  | cons {files files' files'' : Files} {original : String} {result : Except Refusal Outcome}
      {results : List (Except Refusal Outcome)} (write : Writer) :
      files.read path = .ok original →
      files.rewriteVerifiedBy write path original d o = (result, files') →
      Repeats path d o files' results files'' →
      Repeats path d o files (result :: results) files''

/-- Where a file is laid out already, nothing is done any more. -/
theorem Repeats.settled {results : List (Except Refusal Outcome)}
    (h : Repeats path d o files results files') (hread : files.read path = .ok (d.print o)) :
    files' = files ∧ ∀ result ∈ results, result = .ok .unchanged := by
  induction h with
  | nil files => exact ⟨rfl, List.forall_mem_nil _⟩
  | cons write horiginal hrun _ ih =>
    have same := Except.ok.inj (hread.symm.trans horiginal)
    -- The first write leaves the files as they are, so the others find the same.
    obtain ⟨rfl, rfl⟩ := Prod.mk.inj (hrun.symm.trans (rewriteVerifiedBy_of_print_eq same))
    obtain ⟨rfl, hresults⟩ := ih hread
    exact ⟨rfl, List.forall_mem_cons.2 ⟨rfl, hresults⟩⟩

/-- *Verified writes are exact and settle.* Let the file at `path` hold the original. If the text of
the document parts from it, the text is refused for that reason. If it is the original, nothing is
done. Otherwise it is written, and the file holds it; or it cannot be written, which is then what is
told. Unless a text is written nothing changes. And once a verified write has succeeded, the file
holds the text of the document, and to write the same one again, once or any number of times, does
nothing. -/
theorem rewriteVerifiedBy_settles (hw : write.IsFaithful) (hread : files.read path = .ok original)
    (d : Doc) (o : Options) :
    (∀ e, divergence? original (d.print o) = some e →
      files.rewriteVerifiedBy write path original d o = (.error (.diverges e), files)) ∧
    (d.print o = original →
      files.rewriteVerifiedBy write path original d o = (.ok .unchanged, files)) ∧
    (∀ after, divergence? original (d.print o) = none → d.print o ≠ original →
      write files path (d.print o) = .ok after →
      files.rewriteVerifiedBy write path original d o = (.ok .written, after) ∧
        after.read path = .ok (d.print o)) ∧
    (∀ e, divergence? original (d.print o) = none → d.print o ≠ original →
      write files path (d.print o) = .error e →
      files.rewriteVerifiedBy write path original d o = (.error (.unwritable path e), files)) ∧
    ∀ outcome files', files.rewriteVerifiedBy write path original d o = (.ok outcome, files') →
      files'.read path = .ok (d.print o) ∧
      (∀ write', files'.rewriteVerifiedBy write' path (d.print o) d o = (.ok .unchanged, files')) ∧
      ∀ results files'', Repeats path d o files' results files'' →
        files'' = files' ∧ ∀ result ∈ results, result = .ok .unchanged := by
  refine ⟨fun e => rewriteVerifiedBy_of_divergence?, rewriteVerifiedBy_of_print_eq, ?_, ?_, ?_⟩
  · intro after hnone hne hok
    rw [rewriteVerifiedBy_of_print_ne hnone hne, hok]
    exact ⟨rfl, hw hok⟩
  · intro e hnone hne herr
    rw [rewriteVerifiedBy_of_print_ne hnone hne, herr]
  · intro outcome files' hrun
    have hafter := read_of_rewriteVerifiedBy hw hread hrun
    -- Read again, the original is the text of the document itself.
    exact ⟨hafter, fun write' => rewriteVerifiedBy_of_print_eq rfl,
      fun results files'' hrepeats => hrepeats.settled hafter⟩

/-- A space is taken out before a string that is never closed, and the second time nothing is done. A
full disk leaves the file alone, and so does a text without the string. -/
theorem rewriteVerifiedBy_settles_unclosed :
    let files : Files := ⟨[(["a"], .text "x  \"y")]⟩
    let after : Files := ⟨[(["a"], .text "x \"y")]⟩
    let reason : FileError := .other "No space left on device (os error 28)"
    let full : Writer := fun _ _ _ => .error reason
    let lost : Divergence := .leftover .original ⟨"\"y", .error, ⟨1, 4⟩, ⟨3, 5⟩⟩
    let d := Doc.text "x \"y" none
    files.rewriteVerifiedBy Files.write "a" "x  \"y" d {} = (.ok .written, after) ∧
      after.read "a" = .ok "x \"y" ∧
      after.rewriteVerifiedBy Files.write "a" "x \"y" d {} = (.ok .unchanged, after) ∧
      files.rewriteVerifiedBy full "a" "x  \"y" d {} =
        (.error (.unwritable "a" reason), files) ∧
      files.rewriteVerifiedBy Files.write "a" "x  \"y" (.text "x" none) {} =
        (.error (.diverges lost), files) := by
  intro files after reason full lost d
  have hread : files.read "a" = .ok "x  \"y" := by cbv
  have hprint : d.print {} = "x \"y" := by cbv
  have haccepted : divergence? "x  \"y" (d.print {}) = none := by cbv
  have hlost : divergence? "x  \"y" ((Doc.text "x" none).print {}) = some lost := by cbv
  have hne : d.print {} ≠ "x  \"y" := by rw [hprint]; decide
  have hwrite : Files.write files "a" (d.print {}) = .ok after := by rw [hprint]; cbv
  have hfull : full.IsFaithful := by
    intro _ _ _ _ h
    cases h
  obtain ⟨-, -, hwritten, -, hsettled⟩ := rewriteVerifiedBy_settles @isFaithful_write hread d {}
  obtain ⟨-, -, -, hunwritable, -⟩ := rewriteVerifiedBy_settles @hfull hread d {}
  obtain ⟨hrefused, -⟩ := rewriteVerifiedBy_settles @isFaithful_write hread (.text "x" none) {}
  obtain ⟨hrun, hafter⟩ := hwritten after haccepted hne hwrite
  obtain ⟨-, hagain, -⟩ := hsettled _ _ hrun
  rw [hprint] at hafter hagain
  exact ⟨hrun, hafter, hagain Files.write, hunwritable reason haccepted hne rfl, hrefused lost hlost⟩

end Files

end VhdlLayout
