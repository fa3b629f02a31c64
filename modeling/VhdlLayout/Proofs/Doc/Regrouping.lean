import Mathlib
import VhdlLayout.Proofs.Doc.Pieces
import VhdlLayout.Proofs.Doc.Recursion
import VhdlLayout.Proofs.Doc.Rendering

/-!
# Regrouping

How the concatenations in a document are grouped has no meaning. To see this, all
of them are grouped to the right, in the document itself and in everything below
(`Doc.regrouped`). Nothing that is read off a document changes by that:

* `Doc.fits_regrouped`, `Doc.measure_regrouped`: neither where it fits nor how wide
  its columns are;
* `Doc.rendering_regrouped`: nor what it comes to when it is laid out.

A document that is regrouped can be told from its pieces (`Doc.regrouped_eq_ofPieces`),
and these are known for whatever is concatenated (`Doc.regrouped_concat`). This is
why documents with the same pieces are the same when they are regrouped.

The layout of a scope is the difficult case. Before it is laid out its columns are
padded, which merges texts, so a regrouped scope does not become the regrouped
document, only one that is the same when it is regrouped once more
(`Doc.regrouped_resolved_regrouped`). That is no part of the scope, but it holds
one scope less, and the induction is on the number of scopes.
-/

namespace VhdlLayout.Doc

variable {a b d e f left right : Doc}

/-- The document before another, which is put at the end of its right spine. -/
def before : Doc → Doc → Doc
  | .cat left right, e => .cat left (right.before e)
  | d, e => .cat d e

/-- The document with all concatenations grouped to the right. -/
def regrouped : Doc → Doc
  | .cat left right => left.regrouped.before right.regrouped
  | .nest child => .nest child.regrouped
  | .hang child => .hang child.regrouped
  | .union flat broken => .union flat.regrouped broken.regrouped
  | .align child => .align child.regrouped
  | d => d

theorem before_before (d e f : Doc) : (d.before e).before f = d.before (e.before f) := by
  induction d with
  | cat left right _ ih => rw [before, before, ih, before]
  | _ => rfl

theorem regrouped_before (d e : Doc) :
    (d.before e).regrouped = d.regrouped.before e.regrouped := by
  induction d with
  | cat left right _ ih => rw [before, regrouped, ih, regrouped, before_before]
  | _ => rfl

theorem regrouped_regrouped (d : Doc) : d.regrouped.regrouped = d.regrouped := by
  induction d with
  | cat left right ihl ihr => rw [regrouped, regrouped_before, ihl, ihr]
  | nest child ih | hang child ih | align child ih => rw [regrouped, regrouped, ih]
  | union flat broken ihf ihb => rw [regrouped, regrouped, ihf, ihb]
  | _ => rfl

/-! ## Pieces -/

theorem pieces_before (d e : Doc) : (d.before e).pieces = d.pieces ++ e.pieces := by
  induction d with
  | cat left right _ ih => rw [before, pieces, ih, pieces, List.append_assoc]
  | _ => rfl

theorem pieces_regrouped (d : Doc) : d.regrouped.pieces = d.pieces.map regrouped := by
  induction d with
  | cat left right ihl ihr => rw [regrouped, pieces_before, ihl, ihr, pieces, List.map_append]
  | _ => rfl

/-- A document from its pieces, grouped to the right. -/
def ofPieces : List Doc → Doc
  | [] => .empty
  | [d] => d
  | d :: e :: es => .cat d (ofPieces (e :: es))

/-- A piece has no spine to go down. -/
theorem before_of_mem_pieces (h : d ∈ e.pieces) (f : Doc) :
    d.regrouped.before f = .cat d.regrouped f := by
  induction e with
  | cat left right ihl ihr =>
    rcases List.mem_append.1 h with h | h
    · exact ihl h
    · exact ihr h
  | empty => cases h
  | _ =>
    rw [List.mem_singleton.1 h]
    rfl

theorem ofPieces_append {ds es : List Doc} (hds : ds ≠ []) (hes : es ≠ [])
    (h : ∀ d ∈ ds, ∀ f, d.before f = .cat d f) :
    ofPieces (ds ++ es) = (ofPieces ds).before (ofPieces es) := by
  fun_induction ofPieces ds with
  | case1 => exact absurd rfl hds
  | case2 d =>
    obtain ⟨e, es, rfl⟩ := List.exists_cons_of_ne_nil hes
    exact (h d List.mem_cons_self _).symm
  | case3 d e ds ih =>
    have := ih (List.cons_ne_nil _ _) (fun d hd => h d (List.mem_cons_of_mem _ hd))
    rw [before, ← this]
    rfl

theorem pieces_ne_nil (hd : d.IsNormal) (h : d.isEmpty = false) : d.pieces ≠ [] := by
  obtain ⟨ds, hds, _⟩ := exists_pieces_eq_concat_last hd h
  rw [hds]
  exact List.concat_ne_nil _ _

/-- A regrouped document can be told from its pieces. -/
theorem regrouped_eq_ofPieces (hd : d.IsNormal) :
    d.regrouped = ofPieces (d.pieces.map regrouped) := by
  induction d with
  | cat left right ihl ihr =>
    have hl := pieces_ne_nil hd.1 hd.2.2.1
    have hr := pieces_ne_nil hd.2.1 hd.2.2.2.1
    rw [regrouped, pieces, List.map_append, ofPieces_append (by simpa using hl) (by simpa using hr),
      ← ihl hd.1, ← ihr hd.2.1]
    intro _ hp
    obtain ⟨p, hmem, rfl⟩ := List.mem_map.1 hp
    exact before_of_mem_pieces hmem
  | _ => rfl

/-- Documents with the same pieces are the same when they are regrouped. -/
theorem regrouped_eq_of_pieces_eq (ha : a.IsNormal) (hb : b.IsNormal)
    (h : a.pieces = b.pieces) : a.regrouped = b.regrouped := by
  rw [regrouped_eq_ofPieces ha, regrouped_eq_ofPieces hb, h]

theorem grain?_regrouped (d : Doc) : d.regrouped.grain? = d.grain? := by
  cases d with
  | cat left right =>
    rw [regrouped]
    cases left.regrouped <;> rfl
  | _ => rfl

theorem regrouped_of_grain? {g : Grain} (h : d.grain? = some g) : d.regrouped = d := by
  cases d with
  | cat | nest | hang | union | align => cases h
  | _ => rfl

/-- Leaves that merge are not changed by regrouping, and nothing else merges. -/
theorem merge?_regrouped (d e : Doc) :
    merge? d.regrouped e.regrouped = (merge? d e).map regrouped := by
  cases h : merge? d e with
  | none =>
    rw [merge?_eq_none_iff] at h
    rw [Option.map_none, merge?_eq_none_iff]
    exact fun hm => h (hm.congr (grain?_regrouped d) (grain?_regrouped e))
  | some leaf =>
    obtain ⟨g, hd, he, hleaf⟩ := grain?_of_merge? h
    rw [regrouped_of_grain? hd, regrouped_of_grain? he, h, Option.map_some,
      regrouped_of_grain? hleaf]

theorem map_regrouped_meet (d e : Doc) :
    (meet d e).map regrouped = meet d.regrouped e.regrouped := by
  rw [meet, meet, merge?_regrouped]
  cases merge? d e <;> rfl

theorem map_regrouped_weld (ds es : List Doc) :
    (weld ds es).map regrouped = weld (ds.map regrouped) (es.map regrouped) := by
  rcases List.eq_nil_or_concat' ds with rfl | ⟨ds, d, rfl⟩
  · rw [weld_nil_left, List.map_nil, weld_nil_left]
  · cases es with
    | nil => rfl
    | cons e es =>
      rw [weld_concat_cons, List.map_append, List.map_append, List.map_append, List.map_singleton,
        List.map_cons, weld_concat_cons, map_regrouped_meet]

/-- What a concatenation is when it is regrouped depends only on what its sides are then. -/
theorem regrouped_concat (ha : a.IsNormal) (hb : b.IsNormal) :
    (concat a b).regrouped = ofPieces (weld a.regrouped.pieces b.regrouped.pieces) := by
  rw [regrouped_eq_ofPieces (isNormal_concat ha hb), pieces_concat ha hb, pieces_regrouped,
    pieces_regrouped, map_regrouped_weld]

/-! ## Normal form -/

theorem isEmpty_before (d e : Doc) : (d.before e).isEmpty = false := by
  cases d <;> rfl

theorem isEmpty_regrouped (d : Doc) : d.regrouped.isEmpty = d.isEmpty := by
  cases d with
  | cat left right => exact isEmpty_before _ _
  | _ => rfl

theorem first_before (d e : Doc) : (d.before e).first = d.first := by
  cases d <;> rfl

theorem last_before (d e : Doc) : (d.before e).last = e.last := by
  induction d with
  | cat left right _ ih => rw [before, last, ih]
  | _ => rfl

theorem grain?_first_regrouped (d : Doc) : d.regrouped.first.grain? = d.first.grain? := by
  induction d with
  | cat left right ih _ => rw [regrouped, first_before, ih, first]
  | _ => rfl

theorem grain?_last_regrouped (d : Doc) : d.regrouped.last.grain? = d.last.grain? := by
  induction d with
  | cat left right _ ih => rw [regrouped, last_before, ih, last]
  | _ => rfl

theorem isNormal_before (h : (Doc.cat d e).IsNormal) : (d.before e).IsNormal := by
  induction d with
  | cat left right _ ih =>
    obtain ⟨⟨hl, hr, hle, hre, hm⟩, he, _, hee, hm'⟩ := h
    refine ⟨hl, ih ⟨hr, he, hre, hee, hm'⟩, hle, isEmpty_before _ _, ?_⟩
    rwa [first_before]
  | _ => exact h

theorem isNormal_cat_regrouped (h : (Doc.cat left right).IsNormal)
    (hl : left.regrouped.IsNormal) (hr : right.regrouped.IsNormal) :
    (Doc.cat left.regrouped right.regrouped).IsNormal := by
  obtain ⟨_, _, hle, hre, hm⟩ := h
  refine ⟨hl, hr, ?_, ?_, fun h => hm (h.congr ?_ ?_)⟩
  · rw [isEmpty_regrouped, hle]
  · rw [isEmpty_regrouped, hre]
  · exact grain?_last_regrouped left
  · exact grain?_first_regrouped right

theorem isNormal_regrouped (hd : d.IsNormal) : d.regrouped.IsNormal := by
  induction d with
  | cat left right ihl ihr =>
    exact isNormal_before (isNormal_cat_regrouped hd (ihl hd.1) (ihr hd.2.1))
  | nest child ih | hang child ih | align child ih => exact ih hd
  | union flat broken ihf ihb => exact ⟨ihf hd.1, ihb hd.2⟩
  | _ => exact hd

/-! ## What is read off a document -/

theorem flatWidth?_before (d e : Doc) : (d.before e).flatWidth? = (Doc.cat d e).flatWidth? := by
  induction d with
  | cat left right _ ih =>
    simp only [before, flatWidth?, ih]
    cases left.flatWidth? <;> cases right.flatWidth? <;> cases e.flatWidth? <;>
      simp [Nat.add_assoc]
  | _ => rfl

theorem flatWidth?_regrouped (d : Doc) : d.regrouped.flatWidth? = d.flatWidth? := by
  induction d with
  | cat left right ihl ihr => rw [regrouped, flatWidth?_before, flatWidth?, ihl, ihr, flatWidth?]
  | nest child ih | hang child ih | align child ih => exact ih
  | union flat broken ih _ => exact ih
  | _ => rfl

theorem fits_regrouped (columns : Int) (d : Doc) : d.regrouped.fits columns = d.fits columns := by
  rw [Bool.eq_iff_iff, fits_iff, fits_iff, flatWidth?_regrouped]

theorem widths_before (d e : Doc) (ws : Widths) :
    (d.before e).widths ws = (Doc.cat d e).widths ws := by
  induction d generalizing ws with
  | cat left right _ ih => rw [before, widths, ih, widths, widths, widths]
  | _ => rfl

theorem widths_regrouped (d : Doc) (ws : Widths) : d.regrouped.widths ws = d.widths ws := by
  induction d generalizing ws with
  | cat left right ihl ihr => rw [regrouped, widths_before, widths, ihl, ihr, widths]
  | nest child ih | hang child ih => exact ih ws
  | union flat broken ihf ihb => rw [regrouped, widths, ihf, ihb, widths]
  | _ => rfl

theorem measure_regrouped (d : Doc) : d.regrouped.measure = d.measure := by
  rw [measure_eq_widths, measure_eq_widths, widths_regrouped]

theorem scopes_before (d e : Doc) : (d.before e).scopes = d.scopes + e.scopes := by
  induction d with
  | cat left right _ ih => rw [before, scopes, ih, scopes, Nat.add_assoc]
  | _ => rfl

theorem scopes_regrouped (d : Doc) : d.regrouped.scopes = d.scopes := by
  induction d with
  | cat left right ihl ihr => rw [regrouped, scopes_before, ihl, ihr, scopes]
  | nest child ih | hang child ih => exact ih
  | align child ih => rw [regrouped, scopes, ih, scopes]
  | union flat broken ihf ihb => rw [regrouped, scopes, ihf, ihb, scopes]
  | _ => rfl

/-! ## Columns -/

/-- To pad a document that is grouped to the right is to weld the same pieces in another order. -/
theorem pieces_padded_before (ws : Widths) (h : (Doc.cat d e).IsNormal) :
    ((d.before e).padded ws).pieces = weld (d.padded ws).pieces (e.padded ws).pieces := by
  induction d with
  | cat left right _ ih =>
    obtain ⟨⟨hl, hr, _, hre, _⟩, he, _, hee, hm⟩ := h
    have hright : (Doc.cat right e).IsNormal := ⟨hr, he, hre, hee, hm⟩
    have hpad {x : Doc} (hx : x.IsNormal) := isNormal_padded ws hx
    rw [before, padded, pieces_concat (hpad hl) (hpad (isNormal_before hright)), ih hright,
      ← weld_assoc, ← pieces_concat (hpad hl) (hpad hr), padded]
  | _ => exact pieces_concat (isNormal_padded ws h.1) (isNormal_padded ws h.2.1)

/-- What a regrouped document is padded to and what the document itself is padded to are the same
when they are regrouped. -/
theorem regrouped_padded_regrouped (ws : Widths) (hd : d.IsNormal) :
    (d.regrouped.padded ws).regrouped = (d.padded ws).regrouped := by
  induction d with
  | cat left right ihl ihr =>
    have hcat := isNormal_cat_regrouped hd (isNormal_regrouped hd.1) (isNormal_regrouped hd.2.1)
    have hpad {x : Doc} (hx : x.IsNormal) := isNormal_padded ws hx
    -- The document that is grouped to the right and the concatenation of its sides are not padded
    -- to the same document, but to the same pieces.
    have hpieces : ((left.regrouped.before right.regrouped).padded ws).pieces =
        (concat (left.regrouped.padded ws) (right.regrouped.padded ws)).pieces := by
      rw [pieces_padded_before ws hcat, pieces_concat (hpad hcat.1) (hpad hcat.2.1)]
    rw [regrouped, regrouped_eq_of_pieces_eq (hpad (isNormal_before hcat))
      (isNormal_concat (hpad hcat.1) (hpad hcat.2.1)) hpieces,
      regrouped_concat (hpad hcat.1) (hpad hcat.2.1), ihl hd.1, ihr hd.2.1,
      ← regrouped_concat (hpad hd.1) (hpad hd.2.1), padded]
  | nest child ih | hang child ih => rw [regrouped, padded, regrouped, ih hd, padded, regrouped]
  | union flat broken ihf ihb =>
    rw [regrouped, padded, regrouped, ihf hd.1, ihb hd.2, padded, regrouped]
  | align child => exact congrArg Doc.align (regrouped_regrouped child)
  | _ => rfl

theorem regrouped_resolved_regrouped (hd : d.IsNormal) :
    d.regrouped.resolved.regrouped = d.resolved.regrouped := by
  rw [resolved_eq_padded (isNormal_regrouped hd), resolved_eq_padded hd, measure_regrouped,
    regrouped_padded_regrouped _ hd]

/-! ## Rendering -/

theorem rendering_before (o : Options) (indent : Column) (mode : Mode) (column : Column) (d e : Doc) :
    (d.before e).rendering o indent mode column =
      (Doc.cat d e).rendering o indent mode column := by
  induction d generalizing column with
  | cat left right _ ih =>
    rw [before, rendering_cat, ih, rendering_cat, rendering_cat, rendering_cat, String.append_assoc]
  | _ => rfl

/-- If documents with fewer scopes are rendered as they are when regrouped, so is the document. -/
theorem rendering_regrouped_step {o : Options} (hd : d.IsNormal)
    (fewer : ∀ e : Doc, e.IsNormal → e.scopes < d.scopes → ∀ indent mode column,
      e.regrouped.rendering o indent mode column = e.rendering o indent mode column)
    (indent : Column) (mode : Mode) (column : Column) :
    d.regrouped.rendering o indent mode column = d.rendering o indent mode column := by
  induction d generalizing indent mode column with
  | cat left right ihl ihr =>
    have hl := ihl hd.1 fun e he hlt => fewer e he (Nat.lt_add_right _ hlt)
    have hr := ihr hd.2.1 fun e he hlt => fewer e he (Nat.lt_add_left _ hlt)
    rw [regrouped, rendering_before, rendering_cat, hl, hr, rendering_cat]
  | nest child ih =>
    rw [regrouped, rendering, ih hd fewer, rendering]
  | hang child ih =>
    rw [regrouped, rendering, ih hd fewer, rendering]
  | union flat broken ihf ihb =>
    have hf := ihf hd.1 fun e he hlt => fewer e he (Nat.lt_add_right _ hlt)
    have hb := ihb hd.2 fun e he hlt => fewer e he (Nat.lt_add_left _ hlt)
    rw [regrouped, rendering, fits_regrouped, hf, hb, rendering]
  | align child ih =>
    rw [regrouped, rendering, rendering]
    cases o.align with
    | false => exact ih hd (fun e he hlt => fewer e he (Nat.lt_succ_of_lt hlt)) indent mode column
    | true =>
      -- The two scopes are resolved to different documents, but these are the same when regrouped.
      have hchild : child.IsNormal := hd
      have alike {e : Doc} (he : e.IsNormal) (hs : e.scopes = child.scopes) :=
        fewer e he (hs ▸ Nat.lt_succ_self _) indent mode column
      have hresolved := alike (isNormal_resolved hchild) (scopes_resolved child)
      have hregrouped := alike (isNormal_resolved (isNormal_regrouped hchild))
        ((scopes_resolved _).trans (scopes_regrouped child))
      rw [scopeContent, if_pos rfl, ← hregrouped, regrouped_resolved_regrouped hchild, hresolved]
      rfl
  | _ => rfl

/-- A document is rendered as it is when regrouped. -/
theorem rendering_regrouped (o : Options) (hd : d.IsNormal) (indent : Column) (mode : Mode)
    (column : Column) :
    d.regrouped.rendering o indent mode column = d.rendering o indent mode column := by
  -- A resolved scope may be larger than the scope, so the induction is not on the document.
  induction hn : d.scopes using Nat.strong_induction_on generalizing d indent mode column with
  | _ n ih =>
    subst hn
    exact rendering_regrouped_step hd (fun e he hlt indent mode column =>
      ih _ hlt he indent mode column rfl) indent mode column

end VhdlLayout.Doc
