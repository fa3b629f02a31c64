import Mathlib.Data.List.Nodup
import VhdlLayout.Options.Reading
import VhdlLayout.Proofs.Toml.Line

/-!
# Reading settings

What is asked of a codec of options (`Codec.IsFaithful`) is what TOML says of plain lines
and what the options say of their fields: which names they have, which values, and that a
field which is not there has its default. From that it follows that a text with a line for
each of some settings is read as the default options with these settings made, in whatever
order they stand (`Codec.read_exact`), and that options are read back from the text that
they are written as. Numbers are held to their bounds only then, the width of a line first.
The codec of the program is faithful (`toml_isFaithful`).

What options choose is told field by field (`Options.setting`). Options override
others by some settings (`Options.IsOverridden`) if they make these settings and
else choose as the others do.
-/

namespace VhdlLayout

namespace Field

theorem name_injective : Function.Injective name := by
  intro f f' h
  have hname := ofName?_name f
  rw [h, ofName?_name] at hname
  exact (Option.some.inj hname).symm

theorem name_ne (f : Field) : f.name ≠ "" := by cases f <;> decide

theorem isNameChar_of_mem_name (f : Field) : ∀ c ∈ f.name.toList, Toml.isNameChar c := by
  cases f <;> simp [name, Toml.isNameChar]

end Field

namespace Choices

theorem get_ofList {α : Type} {name : α → String} {choices : List α} {a : α} (ha : a ∈ choices)
    (h : ∀ b ∈ choices, name b = name a → b = a) : (ofList name choices).get (name a) = .ok a := by
  have hlookup : (ofList name choices).lookup (name a) = some a := by
    induction choices with
    | nil => simp at ha
    | cons b choices ih =>
      rw [ofList, List.map_cons, List.lookup_cons]
      by_cases hb : name b = name a
      · simp [h b List.mem_cons_self hb]
      · have ha' : a ∈ choices := (List.mem_cons.1 ha).resolve_left fun hab => hb (hab ▸ rfl)
        have hne : (name a == name b) = false := by simpa using Ne.symm hb
        rw [hne]
        exact ih ha' fun c hc => h c (List.mem_cons_of_mem b hc)
  rw [get, hlookup]

theorem get_casings (casing : Casing) : casings.get casing.name = .ok casing :=
  get_ofList (by cases casing <;> decide) (by cases casing <;> decide)

theorem get_indentStyles (style : IndentStyle) : indentStyles.get style.name = .ok style :=
  get_ofList (by cases style <;> decide) (by cases style <;> decide)

theorem get_lineEndings (ending : LineEnding) : lineEndings.get ending.name = .ok ending :=
  get_ofList (by cases ending <;> decide) (by cases ending <;> decide)

end Choices

theorem Toml.Item.natural_integer_natCast (n : Nat) (extent : Extent) :
    natural (.scalar (.integer n) extent) = .ok n := by
  rw [natural, if_neg (by omega), Int.toNat_natCast]

theorem Casing.isPlain_of_mem_name (casing : Casing) :
    ∀ c ∈ casing.name.toList, Toml.isPlain c := by
  cases casing <;> simp [name, Toml.isPlain, Toml.isTextual]

theorem IndentStyle.isPlain_of_mem_name (style : IndentStyle) :
    ∀ c ∈ style.name.toList, Toml.isPlain c := by
  cases style <;> simp [name, Toml.isPlain, Toml.isTextual]

theorem LineEnding.isPlain_of_mem_name (ending : LineEnding) :
    ∀ c ∈ ending.name.toList, Toml.isPlain c := by
  cases ending <;> simp [name, Toml.isPlain, Toml.isTextual]

namespace Options

/-- What the options choose for a field. -/
def setting (o : Options) : Field → Setting
  | .lineWidth => .lineWidth o.lineWidth
  | .indentSize => .indentSize o.indentSize
  | .indentStyle => .indentStyle o.indentStyle
  | .lineEnding => .lineEnding o.lineEnding
  | .keywordCase => .keywordCase o.keywordCase
  | .constantCase => .constantCase o.constantCase
  | .identifierCase => .identifierCase o.identifierCase
  | .align => .align o.align

theorem settings_eq_map (o : Options) : o.settings = Field.all.map o.setting := rfl

theorem eq_of_setting_eq {o o' : Options} (h : ∀ f, o.setting f = o'.setting f) : o = o' := by
  have hsettings : o.settings = o'.settings := by
    rw [settings_eq_map, settings_eq_map, funext h]
  rw [← withSettings_settings o' o, ← hsettings, withSettings_settings]

/-- The options make these settings and are like `base` in all other fields. -/
structure IsOverridden (base : Options) (settings : List Setting) (o : Options) : Prop where
  made : ∀ s ∈ settings, o.setting s.field = s
  kept : ∀ f, f ∉ settings.map Setting.field → o.setting f = base.setting f

theorem IsOverridden.unique {base o o' : Options} {settings : List Setting}
    (h : base.IsOverridden settings o) (h' : base.IsOverridden settings o') : o = o' := by
  refine eq_of_setting_eq fun f => ?_
  by_cases hf : f ∈ settings.map Setting.field
  · obtain ⟨s, hs, rfl⟩ := List.mem_map.1 hf
    rw [h.made s hs, h'.made s hs]
  · rw [h.kept f hf, h'.kept f hf]

theorem setting_apply_self (o : Options) (s : Setting) : (s.apply o).setting s.field = s := by
  cases s <;> rfl

theorem setting_apply_of_ne (o : Options) {s : Setting} {f : Field} (h : f ≠ s.field) :
    (s.apply o).setting f = o.setting f := by
  cases s <;> cases f <;> first | rfl | exact absurd rfl h

theorem withSettings_isOverridden (base : Options) {settings : List Setting}
    (h : (settings.map Setting.field).Nodup) :
    base.IsOverridden settings (base.withSettings settings) := by
  induction settings generalizing base with
  | nil => exact ⟨by simp, fun _ _ => rfl⟩
  | cons s settings ih =>
    rw [List.map_cons, List.nodup_cons] at h
    have hrest := ih (s.apply base) h.2
    constructor
    · intro s' hs'
      obtain rfl | hs' := List.mem_cons.1 hs'
      · -- No later setting is made for the same field.
        exact (hrest.kept _ h.1).trans (setting_apply_self base s')
      · exact hrest.made s' hs'
    · intro f hf
      rw [List.map_cons, List.mem_cons, not_or] at hf
      exact (hrest.kept f hf.2).trans (setting_apply_of_ne base hf.1)

end Options

namespace Setting

/-- The setting can be written down so that it is read back: a number has to fit into 64 bits with
its sign. -/
def IsStorable : Setting → Prop
  | .lineWidth n | .indentSize n => n < 2 ^ 63
  | _ => True

instance (s : Setting) : Decidable s.IsStorable :=
  match s with
  | .lineWidth n | .indentSize n => inferInstanceAs (Decidable (n < 2 ^ 63))
  | .indentStyle _ | .lineEnding _ | .keywordCase _ | .constantCase _ | .identifierCase _
  | .align _ => inferInstanceAs (Decidable True)

/-- The value as it is read. -/
def scalar : Setting → Toml.Scalar
  | .lineWidth n | .indentSize n => .integer n
  | .indentStyle s => .string s.name
  | .lineEnding e => .string e.name
  | .keywordCase c | .constantCase c | .identifierCase c => .string c.name
  | .align b => .boolean b

/-- The line of the setting as a line of TOML. -/
def tomlLine (s : Setting) : Toml.Line := ⟨s.field.name, s.value, s.scalar⟩

theorem text_tomlLine (s : Setting) : s.tomlLine.text = s.line := rfl

theorem scalar_isSpelled {s : Setting} (h : s.IsStorable) : s.scalar.IsSpelled s.value := by
  cases s with
  | lineWidth n | indentSize n => exact .integer h
  | indentStyle style => exact .string style.isPlain_of_mem_name
  | lineEnding ending => exact .string ending.isPlain_of_mem_name
  | keywordCase casing | constantCase casing | identifierCase casing =>
    exact .string casing.isPlain_of_mem_name
  | align b => exact .boolean b

theorem tomlLine_isPlain {s : Setting} (h : s.IsStorable) : s.tomlLine.IsPlain where
  name_ne := s.field.name_ne
  isNameChar_of_mem := s.field.isNameChar_of_mem_name
  isSpelled := scalar_isSpelled h

/-- The entry gives the field of the setting the value of the setting. -/
def IsMadeBy (s : Setting) (e : Toml.Key × Toml.Item) : Prop := s.tomlLine.Says e

theorem IsMadeBy.name_eq {s : Setting} {e : Toml.Key × Toml.Item} (h : s.IsMadeBy e) :
    e.1.name = s.field.name := h.1

end Setting

namespace Options

theorem checked_eq (o : Options) :
    o.checked =
      if 10 ≤ o.lineWidth ∧ o.lineWidth ≤ 200 then
        if 1 ≤ o.indentSize ∧ o.indentSize ≤ 16 then .ok o
        else .error (.outOfRange .indentSize o.indentSize ⟨1, 16⟩)
      else .error (.outOfRange .lineWidth o.lineWidth ⟨10, 200⟩) := by
  by_cases hwidth : 10 ≤ o.lineWidth ∧ o.lineWidth ≤ 200
  · have hwidth' : Bounds.lineWidth.check .lineWidth o.lineWidth = .ok () := if_pos hwidth
    by_cases hsize : 1 ≤ o.indentSize ∧ o.indentSize ≤ 16
    · have hsize' : Bounds.indentSize.check .indentSize o.indentSize = .ok () := if_pos hsize
      rw [if_pos hwidth, if_pos hsize, checked, hwidth', hsize']
      rfl
    · have hsize' : Bounds.indentSize.check .indentSize o.indentSize =
          .error (.outOfRange .indentSize o.indentSize ⟨1, 16⟩) := if_neg hsize
      rw [if_pos hwidth, if_neg hsize, checked, hwidth', hsize']
      rfl
  · have hwidth' : Bounds.lineWidth.check .lineWidth o.lineWidth =
        .error (.outOfRange .lineWidth o.lineWidth ⟨10, 200⟩) := if_neg hwidth
    rw [if_neg hwidth, checked, hwidth']
    rfl

theorem bounds_of_checked {o : Options} (h : o.checked = .ok o) :
    (10 ≤ o.lineWidth ∧ o.lineWidth ≤ 200) ∧ 1 ≤ o.indentSize ∧ o.indentSize ≤ 16 := by
  rw [checked_eq] at h
  split at h
  · next hwidth =>
    split at h
    · next hsize => exact ⟨hwidth, hsize⟩
    · simp at h
  · simp at h

/-! ## Faithful codecs -/

namespace Codec

/-- The codec reads and writes TOML as TOML and the types of the options prescribe. -/
structure IsFaithful (codec : Codec) : Prop where
  /-- Lines that give plain values to different names are TOML. -/
  parse_join (lines : List Toml.Line) (hplain : ∀ l ∈ lines, l.IsPlain)
    (hnames : (lines.map Toml.Line.name).Nodup) :
    ∃ t, codec.parse (String.join (lines.map Toml.Line.text)) = some t ∧ t.IsOf lines
  /-- A table is good if all that it holds are fields with a value of their type. -/
  exists_interpret (t : Toml.Table) (ht : t.HasNoTwins)
    (hmade : ∀ e ∈ t.entries, ∃ s : Setting, s.IsMadeBy e) : ∃ o, codec.interpret t = .ok o
  /-- A field has the value that the table holds. -/
  interpret_made (t : Toml.Table) (ht : t.HasNoTwins) (o : Options)
    (ho : codec.interpret t = .ok o) (s : Setting) (hs : ∃ e ∈ t.entries, s.IsMadeBy e) :
    o.setting s.field = s
  /-- A field that the table does not hold has its default. -/
  interpret_kept (t : Toml.Table) (ht : t.HasNoTwins) (o : Options)
    (ho : codec.interpret t = .ok o) (f : Field) (hf : ∀ e ∈ t.entries, e.1.name ≠ f.name) :
    o.setting f = default.setting f
  /-- The fields are written in their order, a line each. -/
  write_eq_ok (o : Options) (hwidth : o.lineWidth < 2 ^ 63) (hsize : o.indentSize < 2 ^ 63) :
    codec.write o = .ok o.text
  /-- Integers have 64 bits with their sign. -/
  write_eq_error (o : Options) (ho : ¬ (o.lineWidth < 2 ^ 63 ∧ o.indentSize < 2 ^ 63)) :
    ∃ reason, codec.write o = .error reason

variable {codec : Codec}

/-- The table of the lines of settings is made into the default options with the settings made. -/
theorem IsFaithful.interpret_eq (h : codec.IsFaithful) {settings : List Setting}
    (hfields : (settings.map Setting.field).Nodup) {t : Toml.Table}
    (ht : t.IsOf (settings.map Setting.tomlLine)) :
    codec.interpret t = .ok (default.withSettings settings) := by
  have hentry (e) (he : e ∈ t.entries) : ∃ s ∈ settings, s.IsMadeBy e := by
    obtain ⟨l, hl, hsays⟩ := ht.exists_line e he
    obtain ⟨s, hs, rfl⟩ := List.mem_map.1 hl
    exact ⟨s, hs, hsays⟩
  obtain ⟨o, ho⟩ := h.exists_interpret t ht.hasNoTwins fun e he =>
    (hentry e he).imp fun s hs => hs.2
  -- What the table holds are the settings, and nothing else; so it leaves all other fields alone.
  have hoverridden : default.IsOverridden settings o := by
    constructor
    · intro s hs
      exact h.interpret_made t ht.hasNoTwins o ho s (ht.exists_entry _ (List.mem_map_of_mem hs))
    · intro f hf
      refine h.interpret_kept t ht.hasNoTwins o ho f fun e he hname => hf ?_
      obtain ⟨s, hs, hmade⟩ := hentry e he
      have hfield : s.field = f := Field.name_injective (hmade.name_eq.symm.trans hname)
      exact hfield ▸ List.mem_map_of_mem hs
  rw [ho, hoverridden.unique (withSettings_isOverridden default hfields)]

/-- The lines of settings are read as the default options with the settings made. -/
theorem IsFaithful.read_join (h : codec.IsFaithful) {settings : List Setting}
    (hfields : (settings.map Setting.field).Nodup) (hstorable : ∀ s ∈ settings, s.IsStorable) :
    codec.read (String.join (settings.map Setting.line)) =
      (default.withSettings settings).checked := by
  have hplain : ∀ l ∈ settings.map Setting.tomlLine, l.IsPlain := by
    intro l hl
    obtain ⟨s, hs, rfl⟩ := List.mem_map.1 hl
    exact Setting.tomlLine_isPlain (hstorable s hs)
  have hnames : ((settings.map Setting.tomlLine).map Toml.Line.name).Nodup := by
    have hmap : (settings.map Setting.tomlLine).map Toml.Line.name =
        (settings.map Setting.field).map Field.name := by simp [Setting.tomlLine]
    rw [hmap]
    exact hfields.map Field.name_injective
  obtain ⟨t, hparse, ht⟩ := h.parse_join _ hplain hnames
  simp only [List.map_map, Function.comp_def, Setting.text_tomlLine] at hparse
  simp [read, hparse, h.interpret_eq hfields ht]

/-- Options whose numbers can be stored are read back from their text, if these are within
bounds. -/
theorem IsFaithful.read_text (h : codec.IsFaithful) {o : Options} (hwidth : o.lineWidth < 2 ^ 63)
    (hsize : o.indentSize < 2 ^ 63) : codec.read o.text = o.checked := by
  rw [Options.text, h.read_join, withSettings_settings]
  · rw [map_field_settings]
    decide
  · simpa [settings, Setting.IsStorable] using ⟨hwidth, hsize⟩

end Codec

end Options

/-! ## The codec of the program -/

theorem Field.name_of_ofName? {name : String} {f : Field} (h : ofName? name = some f) :
    f.name = name := by
  simpa using List.find?_some h

namespace Setting

/-- The value that a setting is read as makes the setting again, as an item of its field. -/
theorem ofItem_scalar (s : Setting) (place extent : Toml.Extent) :
    ofItem place (.scalar s.scalar extent) s.field = .ok s := by
  cases s with
  | lineWidth n | indentSize n =>
    simp [ofItem, scalar, field, Toml.Item.natural_integer_natCast, Complaint.locate]
  | indentStyle style =>
    simp [ofItem, scalar, field, Toml.Item.choice, Choices.get_indentStyles, Complaint.locate]
  | lineEnding ending =>
    simp [ofItem, scalar, field, Toml.Item.choice, Choices.get_lineEndings, Complaint.locate]
  | keywordCase casing | constantCase casing | identifierCase casing =>
    simp [ofItem, scalar, field, Toml.Item.choice, Choices.get_casings, Complaint.locate]
  | align b => simp [ofItem, scalar, field, Toml.Item.boolean, Complaint.locate]

theorem ofEntry_of_isMadeBy {s : Setting} {e : Toml.Key × Toml.Item} (h : s.IsMadeBy e) :
    ofEntry e = .ok s := by
  obtain ⟨key, item⟩ := e
  obtain ⟨hname, extent, hitem⟩ := h
  have hfield : Field.ofName? key.name = some s.field := by
    rw [show key.name = s.field.name from hname, Field.ofName?_name]
  rw [show item = .scalar s.scalar extent from hitem]
  simp [ofEntry, hfield, ofItem_scalar]

theorem field_of_map {α : Type} {make : α → Setting} {f : Field} (hmake : ∀ a, (make a).field = f)
    {result : Except Complaint α} {s : Setting} (h : make <$> result = .ok s) : s.field = f := by
  cases result with
  | error c => cases h
  | ok a =>
    cases h
    exact hmake a

theorem field_of_ofItem {place : Toml.Extent} {item : Toml.Item} {f : Field} {s : Setting}
    (h : ofItem place item f = .ok s) : s.field = f := by
  cases f <;>
  · rw [ofItem] at h
    exact field_of_map (by intro; rfl) h

/-- An entry makes a setting of the field that it names. -/
theorem name_of_ofEntry {e : Toml.Key × Toml.Item} {s : Setting} (h : ofEntry e = .ok s) :
    e.1.name = s.field.name := by
  unfold ofEntry at h
  split at h
  · cases h
  · next f hf => rw [field_of_ofItem h, Field.name_of_ofName? hf]

theorem mapM_ofEntry_eq_ok_iff {es : List (Toml.Key × Toml.Item)} {settings : List Setting} :
    es.mapM ofEntry = .ok settings ↔
      List.Forall₂ (fun e s => ofEntry e = .ok s) es settings := by
  induction es generalizing settings with
  | nil =>
    rw [List.mapM_nil, List.forall₂_nil_left_iff]
    exact ⟨fun h => (Except.ok.inj h).symm, fun h => congrArg _ h.symm⟩
  | cons e es ih =>
    rw [List.mapM_cons, List.forall₂_cons_left_iff]
    simp only [← ih]
    cases ofEntry e with
    | error c => simp [bind, Except.bind]
    | ok s =>
      cases es.mapM ofEntry with
      | error c => simp [bind, Except.bind]
      | ok rest => simp [bind, Except.bind, pure, Except.pure, eq_comm]

end Setting

namespace Options

theorem ofTable_eq_ok_iff {t : Toml.Table} {o : Options} :
    ofTable t = .ok o ↔
      ∃ settings, List.Forall₂ (fun e s => Setting.ofEntry e = .ok s) t.entries settings ∧
        default.withSettings settings = o := by
  rw [ofTable]
  simp only [← Setting.mapM_ofEntry_eq_ok_iff]
  cases t.entries.mapM Setting.ofEntry with
  | error c => simp [bind, Except.bind]
  | ok settings => simp [bind, Except.bind, pure, Except.pure]

/-- The table of options makes some settings of different fields, and no others. -/
theorem exists_isOverridden_of_ofTable {t : Toml.Table} (ht : t.HasNoTwins) {o : Options}
    (h : ofTable t = .ok o) :
    ∃ settings, List.Forall₂ (fun e s => Setting.ofEntry e = .ok s) t.entries settings ∧
      default.IsOverridden settings o := by
  obtain ⟨settings, hmade, rfl⟩ := ofTable_eq_ok_iff.1 h
  -- Entries of different names make settings of different fields.
  have hnames : List.Forall₂ (· = ·) (t.entries.map (·.1.name)) (settings.map (·.field.name)) := by
    rw [List.forall₂_map_left_iff, List.forall₂_map_right_iff]
    exact hmade.imp fun _ _ => Setting.name_of_ofEntry
  rw [List.forall₂_eq_eq_eq] at hnames
  refine ⟨settings, hmade, withSettings_isOverridden default ?_⟩
  refine List.Nodup.of_map Field.name ?_
  rw [List.map_map]
  exact hnames ▸ ht

theorem isTomlInteger_iff {n : Nat} : isTomlInteger n ↔ n < 2 ^ 63 := by
  rw [isTomlInteger, Toml.Rule.integer?_natCast]
  split <;> simp_all

/-- The codec of the program is faithful. -/
theorem toml_isFaithful : toml.IsFaithful where
  parse_join _ hplain hnames := Toml.Table.ofText?_join hplain hnames
  exists_interpret t _ hmade := by
    have : Nonempty Setting := ⟨.align true⟩
    choose! setting hmade using hmade
    refine ⟨_, ofTable_eq_ok_iff.2 ⟨t.entries.map setting, ?_, rfl⟩⟩
    rw [List.forall₂_map_right_iff]
    exact List.forall₂_same.2 fun e he => Setting.ofEntry_of_isMadeBy (hmade e he)
  interpret_made t ht o ho s hs := by
    obtain ⟨settings, hmade, ho⟩ := exists_isOverridden_of_ofTable ht ho
    obtain ⟨e, he, hs⟩ := hs
    obtain ⟨s', hs', hentry⟩ := Toml.exists_right_of_forall₂ hmade e he
    obtain rfl : s = s' := Except.ok.inj ((Setting.ofEntry_of_isMadeBy hs).symm.trans hentry)
    exact ho.made s hs'
  interpret_kept t ht o ho f hf := by
    obtain ⟨settings, hmade, ho⟩ := exists_isOverridden_of_ofTable ht ho
    refine ho.kept f fun hmem => ?_
    obtain ⟨s, hs, rfl⟩ := List.mem_map.1 hmem
    obtain ⟨e, he, hentry⟩ := Toml.exists_left_of_forall₂ hmade s hs
    exact hf e he (Setting.name_of_ofEntry hentry)
  write_eq_ok o hwidth hsize := by
    have hcan : isTomlInteger o.lineWidth && isTomlInteger o.indentSize := by
      rw [Bool.and_eq_true]
      exact ⟨isTomlInteger_iff.2 hwidth, isTomlInteger_iff.2 hsize⟩
    exact if_pos hcan
  write_eq_error o ho := by
    have hcannot : ¬ (isTomlInteger o.lineWidth && isTomlInteger o.indentSize) := by
      rwa [Bool.and_eq_true, isTomlInteger_iff, isTomlInteger_iff]
    exact ⟨_, if_neg hcannot⟩

/-! ## What is read back -/

namespace Codec

/-- *Settings are read back, in whatever order they stand.* By every faithful codec, a text with a
line for each of some settings of different fields is read as the default options overridden by just
these settings, if the numbers are then within bounds; else the width of the line is complained
about before the size of the indentation. So options are read back from the text that they are
written as. They cannot be written only if a number takes more than 64 bits with its sign. -/
theorem read_exact {codec : Codec} (h : codec.IsFaithful) :
    (∀ settings : List Setting, (settings.map Setting.field).Nodup →
      (∀ s ∈ settings, s.IsStorable) →
      (∃! o, default.IsOverridden settings o) ∧
      ∀ o, default.IsOverridden settings o →
        codec.read (String.join (settings.map Setting.line)) =
          if 10 ≤ o.lineWidth ∧ o.lineWidth ≤ 200 then
            if 1 ≤ o.indentSize ∧ o.indentSize ≤ 16 then .ok o
            else .error (.outOfRange .indentSize o.indentSize ⟨1, 16⟩)
          else .error (.outOfRange .lineWidth o.lineWidth ⟨10, 200⟩)) ∧
    (∀ o : Options, o.checked = .ok o →
      ∃ text, codec.text o = .ok text ∧ codec.read text = .ok o) ∧
    (∀ o : Options, o.lineWidth < 2 ^ 63 → o.indentSize < 2 ^ 63 →
      ∃ text, codec.text o = .ok text ∧ codec.read text = o.checked) ∧
    ∀ o : Options, ¬ (o.lineWidth < 2 ^ 63 ∧ o.indentSize < 2 ^ 63) →
      ∃ e, codec.text o = .error e := by
  have hback (o : Options) (hwidth : o.lineWidth < 2 ^ 63) (hsize : o.indentSize < 2 ^ 63) :
      ∃ text, codec.text o = .ok text ∧ codec.read text = o.checked :=
    ⟨o.text, by rw [text, h.write_eq_ok o hwidth hsize]; rfl, h.read_text hwidth hsize⟩
  refine ⟨fun settings hfields hstorable => ⟨?_, ?_⟩, ?_, hback, ?_⟩
  · exact ⟨_, withSettings_isOverridden default hfields,
      fun o ho => ho.unique (withSettings_isOverridden default hfields)⟩
  · intro o ho
    rw [h.read_join hfields hstorable, ← checked_eq,
      ho.unique (withSettings_isOverridden default hfields)]
  · intro o ho
    obtain ⟨hwidth, hsize⟩ := bounds_of_checked ho
    exact ho ▸ hback o (by omega) (by omega)
  · intro o ho
    obtain ⟨reason, hreason⟩ := h.write_eq_error o ho
    exact ⟨⟨reason⟩, by rw [text, hreason]; rfl⟩

/-- Both numbers are out of their bounds. The width is complained about, though it stands last. -/
theorem read_exact_width_first :
    toml.IsFaithful ∧
    ([Setting.indentSize 99, .keywordCase .upper, .lineWidth 5].map Setting.field).Nodup ∧
    (∀ s ∈ [Setting.indentSize 99, .keywordCase .upper, .lineWidth 5], s.IsStorable) ∧
    default.IsOverridden [.indentSize 99, .keywordCase .upper, .lineWidth 5]
      { lineWidth := 5, indentSize := 99, keywordCase := .upper } ∧
    toml.read "indent_size = 99\nkeyword_case = \"upper\"\nline_width = 5\n" =
      .error (.outOfRange .lineWidth 5 ⟨10, 200⟩) ∧
    { lineWidth := 200, lineEnding := .crlf : Options }.checked =
      .ok { lineWidth := 200, lineEnding := .crlf } ∧
    (∃ text, toml.text { lineWidth := 200, lineEnding := .crlf } = .ok text ∧
      toml.read text = .ok { lineWidth := 200, lineEnding := .crlf }) ∧
    (∃ text, toml.text { indentSize := 2 ^ 63 - 1 } = .ok text ∧
      toml.read text = .error (.outOfRange .indentSize (2 ^ 63 - 1) ⟨1, 16⟩)) ∧
    ∃ e, toml.text { indentSize := 2 ^ 63 } = .error e := by
  have hfields : ([Setting.indentSize 99, .keywordCase .upper, .lineWidth 5].map
      Setting.field).Nodup := by decide
  have hstorable : ∀ s ∈ [Setting.indentSize 99, .keywordCase .upper, .lineWidth 5],
      s.IsStorable := by decide
  have hoverridden : default.IsOverridden [.indentSize 99, .keywordCase .upper, .lineWidth 5]
      { lineWidth := 5, indentSize := 99, keywordCase := .upper } :=
    ⟨by decide, by intro f; cases f <;> decide⟩
  have hchecked : { lineWidth := 200, lineEnding := .crlf : Options }.checked =
      .ok { lineWidth := 200, lineEnding := .crlf } := rfl
  obtain ⟨hread, hvalid, hback, hgreat⟩ := read_exact toml_isFaithful
  exact ⟨toml_isFaithful, hfields, hstorable, hoverridden,
    (hread _ hfields hstorable).2 _ hoverridden, hchecked, hvalid _ hchecked,
    hback _ (by decide) (by decide), hgreat _ (by decide)⟩

end Codec

end Options

end VhdlLayout
