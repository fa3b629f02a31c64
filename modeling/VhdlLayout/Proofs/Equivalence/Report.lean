import Mathlib
import VhdlLayout.Proofs.Equivalence.Placement
import VhdlLayout.Proofs.Text.Lines
import VhdlLayout.Proofs.Token.Tiling

/-!
# What is reported

A divergence is reported by the tokens at which the walk has stopped. Which these
are can be said without the walk: it has passed the tokens before them, taking
the same ones for each other and passing over those that have been added
(`Passed`), and cannot go on (`Parting.StandsAt`). There is one such place at most,
and the walk finds it if there is one (`Parting.find?_eq_some_iff`).

Each token is shown by its text and by where it stands, which are told by the
bytes of the source alone (`TokenStream.Shows`).
-/

namespace VhdlLayout

/-! ## Tokens that the walk has passed -/

/-- The token `f` may be passed over where the original goes on with `o`: it is a reserved word that
may stand anywhere, or only `f` is an identifier. -/
def Token.MayBeAdded (f o : Token) : Prop :=
  f.kind.isOptional = true ∨ f.kind.isIdentifier = true ∧ o.kind.isIdentifier = false

/-- The walk passes the tokens `os` and `fs`, where the original goes on with `next`: the first two
tokens are the same, or else the one on the right may have been added. -/
inductive Passed (same : Token → Token → Prop) (next : List Token) :
    (os fs : List Token) → Prop
  | nil : Passed same next [] []
  | keep {o f : Token} {os fs : List Token} : same o f → Passed same next os fs →
      Passed same next (o :: os) (f :: fs)
  | add {o f : Token} {os fs : List Token} : (os ++ next).head? = some o → ¬ same o f →
      f.MayBeAdded o → Passed same next os fs → Passed same next os (f :: fs)

/-- The walk goes on behind what it has passed. -/
theorem Passed.find?_append {same : Token → Token → Bool} {next os fs : List Token}
    (h : Passed (fun o f => same o f = true) next os fs) (rest : List Token) :
    Parting.find? same (os ++ next) (fs ++ rest) = Parting.find? same next rest := by
  induction h with
  | nil => rfl
  | keep hsame _ ih => rw [List.cons_append, List.cons_append, Parting.find?, if_pos hsame, ih]
  | add ho hdiff hadd _ ih =>
    obtain ⟨os', hos⟩ := List.head?_eq_some_iff.1 ho
    rw [hos] at ih ⊢
    rw [List.cons_append, Parting.find?, if_neg hdiff]
    rcases hadd with hopt | ⟨hf, ho'⟩
    · rw [if_pos hopt, ih]
    · simp only [hf, ho', Bool.not_false, Bool.and_self, if_true, ite_self, ih]

/-! ## Where the walk stops -/

theorem drop_eq_cons {α : Type} {l : List α} {i : Nat} {a : α} (h : l[i]? = some a) :
    l.drop i = a :: l.drop (i + 1) := by
  rw [List.drop_eq_getElem?_toList_append, h, Option.toList_some, List.singleton_append]

namespace Parting

variable {o f : Token} {os fs : List Token} {p : Parting}

/-- The lists part at `p`: the walk passes all that stands before and cannot go on. -/
inductive StandsAt (same : Token → Token → Prop) (os fs : List Token) : Parting → Prop
  /-- The tokens at `i` and `j` are not the same, and the one on the right is not one that may be
  added. -/
  | mismatch {i j : Nat} {o f : Token} : os[i]? = some o → fs[j]? = some f →
      Passed same (os.drop i) (os.take i) (fs.take j) → ¬ same o f → f.kind.isOptional = false →
      ¬ (f.kind.isIdentifier = true ∧ o.kind.isIdentifier = false) →
      StandsAt same os fs (.mismatch o f)
  /-- All tokens on the right have been passed, and those before `i` on the left. -/
  | original {i : Nat} {o : Token} : os[i]? = some o →
      Passed same (os.drop i) (os.take i) fs → StandsAt same os fs (.leftover .original o)
  /-- All tokens on the left have been passed, and those before `j` on the right; of the tokens
  behind, the first that is not a reserved word that may stand anywhere is the one `k` further on.
  -/
  | formatted {j k : Nat} {f : Token} : fs[j + k]? = some f → Passed same [] os (fs.take j) →
      (∀ w ∈ (fs.drop j).take k, w.kind.isOptional = true) → f.kind.isOptional = false →
      StandsAt same os fs (.leftover .formatted f)

namespace StandsAt

variable {same : Token → Token → Prop}

theorem keep (hsame : same o f) (h : StandsAt same os fs p) :
    StandsAt same (o :: os) (f :: fs) p := by
  cases h with
  | @mismatch i j _ _ hi hj hpassed hdiff hopt hlabel =>
    exact .mismatch (i := i + 1) (j := j + 1) hi hj (.keep hsame hpassed) hdiff hopt hlabel
  | @original i _ hi hpassed => exact .original (i := i + 1) hi (.keep hsame hpassed)
  | @formatted j k _ hjk hpassed hw hopt =>
    refine .formatted (j := j + 1) (k := k) ?_ (.keep hsame hpassed) hw hopt
    rwa [Nat.add_right_comm]

/-- What is still to come on the left begins with `o`, wherever the lists part. -/
theorem add (hdiff : ¬ same o f) (hadd : f.MayBeAdded o) (h : StandsAt same (o :: os) fs p) :
    StandsAt same (o :: os) (f :: fs) p := by
  have hnext (i : Nat) : ((o :: os).take i ++ (o :: os).drop i).head? = some o := by
    rw [List.take_append_drop, List.head?_cons]
  cases h with
  | @mismatch i j _ _ hi hj hpassed hdiff' hopt hlabel =>
    exact .mismatch (j := j + 1) hi hj (.add (hnext i) hdiff hadd hpassed) hdiff' hopt hlabel
  | @original i _ hi hpassed => exact .original hi (.add (hnext i) hdiff hadd hpassed)
  | @formatted j k _ hjk hpassed hw hopt =>
    refine .formatted (j := j + 1) (k := k) ?_ (.add rfl hdiff hadd hpassed) hw hopt
    rwa [Nat.add_right_comm]

/-- Behind all tokens on the left, the first token that is not passed over is reported. -/
theorem of_dropWhile (h : fs.dropWhile (·.kind.isOptional) = f :: os) :
    StandsAt same [] fs (.leftover .formatted f) := by
  have hopt := List.head?_dropWhile_not (·.kind.isOptional) fs
  rw [h, List.head?_cons] at hopt
  obtain ⟨ws, hws, rfl⟩ : ∃ ws : List Token,
      (∀ w ∈ ws, w.kind.isOptional = true) ∧ ws ++ f :: os = fs :=
    ⟨fs.takeWhile (·.kind.isOptional), fun w => List.mem_takeWhile_imp,
      by rw [← h, List.takeWhile_append_dropWhile]⟩
  refine .formatted (j := 0) (k := ws.length) ?_ .nil ?_ hopt
  · rw [Nat.zero_add, List.getElem?_append_right le_rfl, Nat.sub_self, List.getElem?_cons_zero]
  · rwa [List.drop_zero, List.take_left]

end StandsAt

/-- Where the walk stops, the lists part. -/
theorem standsAt_of_find?_eq_some {same : Token → Token → Bool} (h : find? same os fs = some p) :
    StandsAt (fun o f => same o f = true) os fs p := by
  fun_induction find? same os fs with
  | case1 => cases h
  | case2 fs f fs' hfs =>
    cases h
    exact .of_dropWhile hfs
  | case3 o os =>
    cases h
    exact .original (i := 0) rfl .nil
  | case4 o os f fs hsame ih => exact (ih h).keep hsame
  | case5 o os f fs hdiff hopt ih => exact (ih h).add hdiff (.inl hopt)
  | case6 o os f fs hdiff _ hlabel ih =>
    rw [Bool.and_eq_true, Bool.not_eq_true'] at hlabel
    exact (ih h).add hdiff (.inr hlabel)
  | case7 o os f fs hdiff hopt hlabel =>
    cases h
    rw [Bool.and_eq_true, Bool.not_eq_true'] at hlabel
    exact .mismatch (i := 0) (j := 0) rfl rfl .nil hdiff (Bool.eq_false_iff.2 hopt) hlabel

/-- *The walk is exact.* It stops at `p` if and only if the lists part there. -/
theorem find?_eq_some_iff {same : Token → Token → Bool} :
    find? same os fs = some p ↔ StandsAt (fun o f => same o f = true) os fs p := by
  refine ⟨standsAt_of_find?_eq_some, fun h => ?_⟩
  cases h with
  | @mismatch i j o f hi hj hpassed hdiff hopt hlabel =>
    have hfind := hpassed.find?_append (fs.drop j)
    rw [List.take_append_drop, List.take_append_drop, drop_eq_cons hi, drop_eq_cons hj] at hfind
    rw [hfind, find?, if_neg hdiff, if_neg (Bool.eq_false_iff.1 hopt), if_neg]
    rwa [Bool.and_eq_true, Bool.not_eq_true']
  | @original i o hi hpassed =>
    have hfind := hpassed.find?_append []
    rw [List.take_append_drop, List.append_nil, drop_eq_cons hi] at hfind
    rw [hfind, find?]
  | @formatted j k f hjk hpassed hw hopt =>
    have hfind := hpassed.find?_append (fs.drop j)
    rw [List.append_nil, List.take_append_drop] at hfind
    have hrest : (fs.drop j).dropWhile (·.kind.isOptional) = f :: fs.drop (j + k + 1) := by
      rw [← List.take_append_drop k (fs.drop j), List.dropWhile_append_of_pos hw, List.drop_drop,
        drop_eq_cons hjk, List.dropWhile_cons, hopt]
      rfl
    rw [hfind, find?, hrest]

end Parting

/-! ## Sightings -/

/-- Between the ends of a span in the source stand characters, and so before and behind it. -/
theorem Span.exists_append_of_isIn {source : String} {s : Span} (h : s.isIn source = true) :
    ∃ before text after, source.toList = before ++ text ++ after ∧
      s = ⟨byteLength before, byteLength (before ++ text)⟩ := by
  obtain ⟨start, stop⟩ := s
  simp only [isIn, Bool.and_eq_true, decide_eq_true_eq, String.Pos.Raw.isValid_eq_true_iff,
    String.Pos.Raw.isValid_iff_exists_append] at h
  obtain ⟨⟨hle, before, behind, rfl, hstart⟩, upto, after, hsource, hstop⟩ := h
  have hstart : start = byteLength before.toList := by
    rw [← utf8ByteSize_eq_byteLength]
    exact congrArg String.Pos.Raw.byteIdx hstart
  have hstop : stop = byteLength upto.toList := by
    rw [← utf8ByteSize_eq_byteLength]
    exact congrArg String.Pos.Raw.byteIdx hstop
  subst hstart hstop
  have hsource := congrArg String.toList hsource
  rw [String.toList_append, String.toList_append] at hsource
  rw [String.toList_append]
  rcases List.append_eq_append_iff.1 hsource with ⟨text, hupto, hbehind⟩ | ⟨text, hbefore, -⟩
  · exact ⟨before.toList, text, after.toList, by rw [hbehind, List.append_assoc], by rw [hupto]⟩
  · -- What stands between the ends the other way round takes no bytes.
    obtain rfl : text = [] := by
      by_contra htext
      have := byteLength_lt_of_ne_nil upto.toList htext
      rw [hbefore] at hle
      omega
    refine ⟨before.toList, [], behind.toList, by rw [List.append_nil], ?_⟩
    rw [hbefore, List.append_nil, List.append_nil]

theorem length_flatMap_utf8EncodeChar (cs : List Char) :
    (cs.flatMap String.utf8EncodeChar).length = byteLength cs := by
  induction cs with
  | nil => rfl
  | cons c cs ih =>
    rw [List.flatMap_cons, List.length_append, String.length_utf8EncodeChar, ih, byteLength_cons]

/-- A span that lies between characters of the source covers the bytes between its ends. -/
theorem Span.utf8_text {source : String} {s : Span} (h : s.isIn source = true) :
    utf8 (s.text source) = ((utf8 source).take s.stop).drop s.start := by
  obtain ⟨before, text, after, hsource, rfl⟩ := exists_append_of_isIn h
  rw [text_between hsource, utf8_eq_flatMap, utf8_eq_flatMap, hsource, String.toList_ofList,
    List.flatMap_append, List.take_left' (length_flatMap_utf8EncodeChar _), List.flatMap_append,
    List.drop_left' (length_flatMap_utf8EncodeChar _)]

/-- The token is reported as it is written in the source and with the place where it stands. -/
structure TokenStream.Shows (stream : TokenStream) (t : Token) (seen : Sighting) : Prop where
  kind : seen.kind = t.kind
  span : seen.span = t.span
  text : t.span.isIn stream.source = true →
    utf8 seen.text = ((utf8 stream.source).take t.span.stop).drop t.span.start
  line : seen.position.line = 1 + ((utf8 stream.source).take t.span.start).count lineFeed
  column : ∃ start, IsLineStart (utf8 stream.source) t.span.start start ∧
    seen.position.column = 1 + (t.span.start - start)

/-- The divergence shows the tokens at which the streams part. -/
inductive Parting.ShownBy (original formatted : TokenStream) : Parting → Divergence → Prop
  | mismatch {o f : Token} {s t : Sighting} : original.Shows o s → formatted.Shows f t →
      ShownBy original formatted (.mismatch o f) (.mismatch s t)
  | original {o : Token} {s : Sighting} : original.Shows o s →
      ShownBy original formatted (.leftover .original o) (.leftover .original s)
  | formatted {f : Token} {t : Sighting} : formatted.Shows f t →
      ShownBy original formatted (.leftover .formatted f) (.leftover .formatted t)

namespace TokenStream

theorem shows_sight (stream : TokenStream) (t : Token) : stream.Shows t (stream.sight t) := by
  obtain ⟨start, hstart, hposition⟩ := Lines.position_ofSource stream.source t.span.start
  have hplace : (stream.sight t).position =
      ⟨1 + ((utf8 stream.source).take t.span.start).count lineFeed, 1 + (t.span.start - start)⟩ :=
    hposition
  exact ⟨rfl, rfl, Span.utf8_text, by rw [hplace], start, hstart, by rw [hplace]⟩

theorem shownBy_report (original formatted : TokenStream) (p : Parting) :
    p.ShownBy original formatted (p.report original formatted) := by
  cases p with
  | mismatch o f => exact .mismatch (original.shows_sight o) (formatted.shows_sight f)
  | leftover side t =>
    cases side with
    | original => exact .original (original.shows_sight t)
    | formatted => exact .formatted (formatted.shows_sight t)

theorem divergence?_eq_some_iff {original formatted : TokenStream} {d : Divergence} :
    original.divergence? formatted = some d ↔ ∃ p : Parting,
      p.StandsAt (original.Corresponds formatted) original.relevant formatted.relevant ∧
        p.report original formatted = d := by
  have hsame : (fun o f => sameToken original formatted o f = true) =
      original.Corresponds formatted := funext₂ fun o f => propext sameToken_iff
  simp only [divergence?, Option.map_eq_some_iff, Parting.find?_eq_some_iff, hsame]

/-- *The report is exact.* A divergence shows the tokens at which the streams part, and wherever the
streams part a divergence shows it. -/
theorem divergence?_exact (original formatted : TokenStream) :
    (∀ d, original.divergence? formatted = some d → ∃ p : Parting,
      p.StandsAt (original.Corresponds formatted) original.relevant formatted.relevant ∧
        p.ShownBy original formatted d) ∧
    ∀ p : Parting,
      p.StandsAt (original.Corresponds formatted) original.relevant formatted.relevant →
        ∃ d, original.divergence? formatted = some d ∧ p.ShownBy original formatted d := by
  refine ⟨fun d h => ?_, fun p hp => ?_⟩
  · obtain ⟨p, hp, rfl⟩ := divergence?_eq_some_iff.1 h
    exact ⟨p, hp, shownBy_report original formatted p⟩
  · exact ⟨p.report original formatted, divergence?_eq_some_iff.2 ⟨p, hp, rfl⟩,
      shownBy_report original formatted p⟩

/-- A label and the word before it have been added; what differs is the name on the next line. -/
theorem divergence?_exact_label :
    let original := read "end;\nuse a"
    let formatted := read "end entity e;\n\n  use b"
    let p : Parting := .mismatch ⟨.ident, ⟨9, 10⟩⟩ ⟨.ident, ⟨21, 22⟩⟩
    let d : Divergence :=
      .mismatch ⟨"a", .ident, ⟨2, 5⟩, ⟨9, 10⟩⟩ ⟨"b", .ident, ⟨3, 7⟩, ⟨21, 22⟩⟩
    (p.StandsAt (original.Corresponds formatted) original.relevant formatted.relevant ∧
      original.divergence? formatted = some d ∧ p.ShownBy original formatted d) ∧
      ∃ q : Parting,
        q.StandsAt (original.Corresponds formatted) original.relevant formatted.relevant ∧
          q.ShownBy original formatted d := by
  intro original formatted p d
  have horiginal : original.relevant =
      [⟨.word .end_, ⟨0, 3⟩⟩, ⟨.delimiter .semicolon, ⟨3, 4⟩⟩, ⟨.word .use, ⟨5, 8⟩⟩,
        ⟨.ident, ⟨9, 10⟩⟩] := by decide +kernel
  have hformatted : formatted.relevant =
      [⟨.word .end_, ⟨0, 3⟩⟩, ⟨.word .entity, ⟨4, 10⟩⟩, ⟨.ident, ⟨11, 12⟩⟩,
        ⟨.delimiter .semicolon, ⟨12, 13⟩⟩, ⟨.word .use, ⟨17, 20⟩⟩, ⟨.ident, ⟨21, 22⟩⟩] := by
    decide +kernel
  have hp :
      p.StandsAt (original.Corresponds formatted) original.relevant formatted.relevant := by
    rw [horiginal, hformatted]
    refine .mismatch (i := 3) (j := 5) rfl rfl (.keep ⟨rfl, nofun⟩ ?_) ?_ rfl nofun
    · refine .add rfl (fun h => nomatch h.1) (.inl rfl) ?_
      refine .add rfl (fun h => nomatch h.1) (.inr ⟨rfl, rfl⟩) ?_
      exact .keep ⟨rfl, fun _ => by decide +kernel⟩ (.keep ⟨rfl, nofun⟩ .nil)
    · exact fun h => absurd (h.2 rfl) (by decide +kernel)
  have h : original.divergence? formatted = some d := by decide +kernel
  obtain ⟨reported, found⟩ := divergence?_exact original formatted
  obtain ⟨d', hd', hshown⟩ := found p hp
  cases h.symm.trans hd'
  exact ⟨⟨hp, h, hshown⟩, reported d h⟩

end TokenStream

end VhdlLayout
