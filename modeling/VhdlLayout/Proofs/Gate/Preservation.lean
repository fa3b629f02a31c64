import VhdlLayout.Gate
import VhdlLayout.Proofs.Equivalence.Placement
import VhdlLayout.Proofs.Files
import VhdlLayout.Proofs.Token.Word

/-!
# Programs that survive being rewritten

A file may be rewritten any number of times, each time from a document of its
own and with options of its own, and any write may fail. Whatever comes of it,
no token of the program that the file held at first is lost.

* `TokenStream.IsPreserved`: the tokens of one source are found again in
  another, but for the case of letters, with added words and identifiers at most;
* `TokenStream.isPreserved_of_divergence?`: so it is wherever the comparison
  finds nothing, and, unlike the comparison, this can be chained;
* `Files.rewriteVerifiedBy_cases`: what can come of one verified write;
* `Files.Revisions.exists_read_isPreserved`: what the file holds after any run of verified
  writes preserves what it held before.
-/

namespace VhdlLayout

namespace Unicode

theorem sameIgnoringCase_trans {s t u : String} (h : sameIgnoringCase s t = true)
    (h' : sameIgnoringCase t u = true) : sameIgnoringCase s u = true := by
  rw [sameIgnoringCase, beq_iff_eq] at *
  exact h.trans h'

end Unicode

/-- A token of this kind may have been added: it is a word that may be added, or an identifier. -/
def Kind.IsAddable (kind : Kind) : Prop := kind.isOptional = true ∨ kind.isIdentifier = true

namespace TokenStream

/-- The tokens `o` and `f` are of one kind and have the same text but for case. -/
def SameText (original formatted : TokenStream) (o f : Token) : Prop :=
  o.kind = f.kind ∧ Unicode.sameIgnoringCase (original.text o) (formatted.text f) = true

/-- Every relevant token of the original is found again in the formatted stream, in the same order;
all other relevant tokens there are of kinds that may be added. -/
def IsPreserved (original formatted : TokenStream) : Prop :=
  ∃ place : Places original.relevant formatted.relevant,
    IsPlacement (original.SameText formatted) original.relevant formatted.relevant place ∧
    ∀ j ∉ Set.range place, (formatted.relevant.get j).kind.IsAddable

theorem IsPreserved.refl (s : TokenStream) : s.IsPreserved s :=
  ⟨id, .refl (fun t => ⟨rfl, Unicode.sameIgnoringCase_self (s.text t)⟩) s.relevant,
    fun j hj => absurd ⟨j, rfl⟩ hj⟩

/-- What is preserved in a stream is preserved in whatever preserves that stream: a token of the
last stream that stands for none of the first has been added before or after. -/
theorem IsPreserved.trans {s t u : TokenStream} (h : s.IsPreserved t) (h' : t.IsPreserved u) :
    s.IsPreserved u := by
  obtain ⟨place, hp, hadd⟩ := h
  obtain ⟨place', hp', hadd'⟩ := h'
  refine ⟨place' ∘ place, hp.trans (fun h h' => ⟨h.1.trans h'.1,
    Unicode.sameIgnoringCase_trans h.2 h'.2⟩) hp', fun j hj => ?_⟩
  by_cases hj' : j ∈ Set.range place'
  · -- It stands for a token of `t` that has been added to `s`, and is of the same kind.
    obtain ⟨k, rfl⟩ := hj'
    have hkind : (t.relevant.get k).kind = (u.relevant.get (place' k)).kind := (hp'.same k).1
    rw [← hkind]
    exact hadd k fun ⟨i, hi⟩ => hj ⟨i, congrArg place' hi⟩
  · exact hadd' j hj'

theorem mem_readAll_of_mem_relevant {source : String} {t : Token}
    (h : t ∈ (read source).relevant) : t ∈ Token.readAll source :=
  (List.mem_filter.1 h).1

/-- For tokens that have been read it makes no difference whether the texts of reserved words are
compared: both spell the word that the kind tells. -/
theorem corresponds_iff_sameText {original formatted : String} {o f : Token}
    (ho : o ∈ Token.readAll original) (hf : f ∈ Token.readAll formatted) :
    (read original).Corresponds (read formatted) o f ↔
      (read original).SameText (read formatted) o f := by
  refine ⟨fun h => ⟨h.1, ?_⟩, fun h => ⟨h.1, fun _ => h.2⟩⟩
  cases hword : o.kind.isWord with
  | false => exact h.2 hword
  | true => exact sameIgnoringCase_of_isWord ho hf h.1 hword

/-- Where a text does not part from the original, it preserves the original. -/
theorem isPreserved_of_divergence? {original formatted : String}
    (h : VhdlLayout.divergence? original formatted = none) :
    (read original).IsPreserved (read formatted) := by
  obtain ⟨place, hc⟩ := exists_covers h
  refine ⟨place, hc.toIsPlacement.mono fun i => (corresponds_iff_sameText ?_ ?_).1,
    fun j hj => (hc.added j hj).imp_right And.left⟩
  · exact mem_readAll_of_mem_relevant (List.getElem_mem _)
  · exact mem_readAll_of_mem_relevant (List.getElem_mem _)

end TokenStream

/-- A document is given out only as the text it is laid out as, and only if that does not part from
the original. -/
theorem Doc.format_eq_ok_iff {d : Doc} {original text : String} {o : Options} :
    d.format original o = .ok text ↔ divergence? original (d.print o) = none ∧ d.print o = text := by
  rw [format]
  split <;> simp_all

namespace Files

/-- What can come of a verified write: the text is refused, it is the original one, it cannot be
written, or it is written. -/
theorem rewriteVerifiedBy_cases (write : Writer) (files : Files) (path original : String) (d : Doc)
    (o : Options) :
    (∃ divergence, d.format original o = .error divergence ∧
      files.rewriteVerifiedBy write path original d o = (.error (.diverges divergence), files)) ∨
    (d.format original o = .ok original ∧
      files.rewriteVerifiedBy write path original d o = (.ok .unchanged, files)) ∨
    (∃ text e, d.format original o = .ok text ∧ text ≠ original ∧ write files path text = .error e ∧
      files.rewriteVerifiedBy write path original d o = (.error (.unwritable path e), files)) ∨
    ∃ text files', d.format original o = .ok text ∧ text ≠ original ∧
      write files path text = .ok files' ∧
      files.rewriteVerifiedBy write path original d o = (.ok .written, files') := by
  rw [rewriteVerifiedBy]
  cases hformat : d.format original o with
  | error divergence => exact .inl ⟨divergence, rfl, rfl⟩
  | ok text =>
    by_cases heq : text = original
    · subst heq
      exact .inr (.inl ⟨rfl, if_pos rfl⟩)
    · dsimp only
      rw [if_neg heq]
      cases hwrite : write files path text with
      | error e => exact .inr (.inr (.inl ⟨text, e, rfl, heq, hwrite, rfl⟩))
      | ok files' => exact .inr (.inr (.inr ⟨text, files', rfl, heq, hwrite, rfl⟩))

end Files

/-! ## Runs -/

/-- What has been written to a path is what the path reads as. -/
def Writer.IsFaithful (write : Writer) : Prop :=
  ∀ {files files' : Files} {path text : String}, write files path text = .ok files' →
    files'.read path = .ok text

theorem Files.isFaithful_write : Writer.IsFaithful Files.write := Files.read_of_write

namespace Files

/-- One verified write to the file at `path`, and what has come of it. The original is what the file
holds; the document, the options and the way in which the system writes may be any. -/
inductive Revision (path : String) : Files → Except Refusal Outcome → Files → Prop
  | rewrite {files files' : Files} {original : String} {result : Except Refusal Outcome}
      (write : Writer) (d : Doc) (o : Options) : write.IsFaithful →
      files.read path = .ok original →
      files.rewriteVerifiedBy write path original d o = (result, files') →
      Revision path files result files'

/-- Verified writes to the file at `path` one after the other, and what has come of each. -/
inductive Revisions (path : String) : Files → List (Except Refusal Outcome) → Files → Prop
  | nil (files : Files) : Revisions path files [] files
  | cons {files files' files'' : Files} {result : Except Refusal Outcome}
      {results : List (Except Refusal Outcome)} : Revision path files result files' →
      Revisions path files' results files'' → Revisions path files (result :: results) files''

variable {path : String} {files files' : Files} {content : String}

/-- After a verified write the file holds a text that preserves what it held before. -/
theorem Revision.exists_read {result : Except Refusal Outcome}
    (h : Revision path files result files') (hc : files.read path = .ok content) :
    ∃ content', files'.read path = .ok content' ∧
      (TokenStream.read content).IsPreserved (TokenStream.read content') := by
  obtain ⟨write, d, o, hwrite, hread, hrun⟩ := h
  obtain rfl := Except.ok.inj (hread.symm.trans hc)
  rcases rewriteVerifiedBy_cases write files path _ d o with
    ⟨_, _, hcase⟩ | ⟨_, hcase⟩ | ⟨_, _, _, _, _, hcase⟩ | ⟨text, after, hformat, _, hok, hcase⟩
  all_goals obtain ⟨-, rfl⟩ := Prod.mk.inj (hrun.symm.trans hcase)
  -- Unless the text has been written, the files are as they were.
  · exact ⟨_, hc, .refl _⟩
  · exact ⟨_, hc, .refl _⟩
  · exact ⟨_, hc, .refl _⟩
  · obtain ⟨hnone, rfl⟩ := Doc.format_eq_ok_iff.1 hformat
    exact ⟨_, hwrite hok, TokenStream.isPreserved_of_divergence? hnone⟩

/-- *No token is lost.* After any run of verified writes, whatever has come of each, the file holds a
text that preserves what it held before the run. -/
theorem Revisions.exists_read_isPreserved {results : List (Except Refusal Outcome)}
    (h : Revisions path files results files') (hc : files.read path = .ok content) :
    ∃ content', files'.read path = .ok content' ∧
      (TokenStream.read content).IsPreserved (TokenStream.read content') := by
  induction h generalizing content with
  | nil files => exact ⟨content, hc, .refl _⟩
  | cons hstep _ ih =>
    obtain ⟨content', hc', hp⟩ := hstep.exists_read hc
    obtain ⟨content'', hc'', hp'⟩ := ih hc'
    exact ⟨content'', hc'', hp.trans hp'⟩

/-- A run in which a label is added, a write fails, and the text is found to be laid out already. -/
theorem Revisions.exists_read_label :
    ∃ content', Files.read ⟨[(["a"], .text "end e;")]⟩ "a" = .ok content' ∧
      (TokenStream.read "end;").IsPreserved (TokenStream.read content') := by
  have added : Revision "a" ⟨[(["a"], .text "end;")]⟩ (.ok .written)
      ⟨[(["a"], .text "end e;")]⟩ :=
    .rewrite Files.write (.text "end e;" none) {} isFaithful_write (by cbv) (by cbv)
  have failed : Revision "a" ⟨[(["a"], .text "end e;")]⟩
      (.error (.unwritable "a" (.other "No space left on device (os error 28)")))
      ⟨[(["a"], .text "end e;")]⟩ :=
    .rewrite (fun _ _ _ => .error (.other "No space left on device (os error 28)"))
      (.cat (.keyword "END" none) (.cat .hardLine (.text "e;" none))) {}
      (by intro _ _ _ _ h; cases h) (by cbv) (by cbv)
  have kept : Revision "a" ⟨[(["a"], .text "end e;")]⟩ (.ok .unchanged)
      ⟨[(["a"], .text "end e;")]⟩ :=
    .rewrite Files.write (.text "end e;" none) {} isFaithful_write (by cbv) (by cbv)
  exact exists_read_isPreserved (.cons added (.cons failed (.cons kept (.nil _)))) (by cbv)

end Files

end VhdlLayout
