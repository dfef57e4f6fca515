import Collate.Config.Loader
import Mathlib.Tactic.Common

namespace Collate.Config

variable {name other : String}

namespace Value

variable {held left right value : Value} {path : Path}
  {entries : List (String × Value)}

theorem fields_table (entries : List (String × Value)) :
    (Value.table entries).fields = entries := rfl

theorem get?_put_of_ne (different : name ≠ Text.lowercase path.first) :
    Assoc.get? name (held.put path value).fields =
      Assoc.get? name held.fields := by
  obtain ⟨change, put_eq⟩ := exists_put_eq path value
  rw [put_eq]
  exact Assoc.get?_put_of_ne different _ _

theorem get?_putAll_of_ne
    (different :
      ∀ entry ∈ entries, name ≠ Text.lowercase (Path.ofText entry.1).first) :
    Assoc.get? name (held.putAll entries).fields =
      Assoc.get? name held.fields := by
  induction entries generalizing held with
  | nil => rfl
  | cons entry rest induction =>
      obtain ⟨first, later⟩ := List.forall_mem_cons.mp different
      exact (induction later).trans (get?_put_of_ne first)

def SameApart (name : String) (left right : Value) : Prop :=
  ∀ other, other ≠ name →
    Assoc.get? other left.fields = Assoc.get? other right.fields

theorem SameApart.refl (name : String) (held : Value) :
    SameApart name held held :=
  fun _ _ => rfl

theorem SameApart.symm (same : SameApart name left right) :
    SameApart name right left :=
  fun other different => (same other different).symm

theorem SameApart.trans {middle : Value} (first : SameApart name left middle)
    (second : SameApart name middle right) : SameApart name left right :=
  fun other different => (first other different).trans (second other different)

theorem SameApart.put_left (same : SameApart name left right)
    (isThere : Text.lowercase path.first = name) (value : Value) :
    SameApart name (left.put path value) right := fun other different =>
  (get?_put_of_ne (isThere ▸ different)).trans (same other different)

theorem SameApart.put (same : SameApart name left right) (path : Path)
    (value : Value) :
    SameApart name (left.put path value) (right.put path value) := by
  intro other different
  obtain ⟨change, put_eq⟩ := exists_put_eq path value
  rw [put_eq, put_eq]
  by_cases isFirst : other = Text.lowercase path.first
  · subst isFirst
    have before := same _ different
    rw [fields_table, fields_table, Assoc.get?_put_self,
      Assoc.get?_put_self, before]
  · exact ((Assoc.get?_put_of_ne isFirst _ _).trans
      (same other different)).trans (Assoc.get?_put_of_ne isFirst _ _).symm

theorem SameApart.putAll (same : SameApart name left right)
    (entries : List (String × Value)) :
    SameApart name (left.putAll entries) (right.putAll entries) := by
  induction entries generalizing left right with
  | nil => exact same
  | cons entry rest induction =>
      exact induction (same.put (.ofText entry.1) entry.2)

theorem exists_putAll_eq_table (fields entries : List (String × Value)) :
    ∃ after, (Value.table fields).putAll entries = .table after := by
  induction entries generalizing fields with
  | nil => exact ⟨fields, rfl⟩
  | cons entry rest induction =>
      obtain ⟨change, put_eq⟩ := exists_put_eq (.ofText entry.1) entry.2
      obtain ⟨after, isAfter⟩ :=
        induction (Assoc.put _ (change (Assoc.get? _ fields)) fields)
      refine ⟨after, isAfter ▸ ?_⟩
      exact congrArg (Value.putAll · rest) (put_eq (.table fields))

end Value

def fieldsOf : Option File → Except Error (List (String × Value))
  | some file => file.fields
  | none => .ok []

def layers (fields : List (String × Value)) (word : String)
    (environment : List (String × String)) :
    Value :=
  ((Value.table []).putAll fields).putAll (Environment.layer word environment)

/-- A variable sets something in the field of a name. -/
def Concerns (word name : String) (setting : String × String) : Prop :=
  ∃ path, Environment.pathOf? word setting.1 = some path ∧
    Text.lowercase (Path.ofText path).first = name

variable {fields : List (String × Value)} {word : String}
  {before after : List (String × String)} {settings : Settings}
  {file : Option File} {environment : List (String × String)}

theorem layer_append (word : String) (before after : List (String × String)) :
    Environment.layer word (before ++ after) =
      Environment.layer word before ++ Environment.layer word after :=
  List.filterMap_append

theorem layers_append (fields : List (String × Value)) (word : String)
    (before after : List (String × String)) :
    layers fields word (before ++ after) =
      (layers fields word before).putAll (Environment.layer word after) := by
  rw [layers, layer_append, Value.putAll_append]
  rfl

theorem exists_layers_eq_table (fields : List (String × Value)) (word : String)
    (environment : List (String × String)) :
    ∃ entries, layers fields word environment = .table entries := by
  obtain ⟨ofFile, isOfFile⟩ := Value.exists_putAll_eq_table [] fields
  rw [layers, isOfFile]
  exact Value.exists_putAll_eq_table ofFile _

theorem exists_load_eq (file : Option File) (word : String)
    (environment : List (String × String)) :
    ∃ refusal : Except Error Settings,
      load file word environment = (fieldsOf file >>= fun fields =>
        match Settings.ofValue? (layers fields word environment) with
        | none => refusal
        | some settings => settings.validate >>= fun _ => pure settings) := by
  cases file with
  | none => exact ⟨_, rfl⟩
  | some file => exact ⟨_, rfl⟩

theorem load_of_settings (read : fieldsOf file = .ok fields)
    (made : Settings.ofValue? (layers fields word environment) = some settings)
    (valid : settings.validate = .ok ()) :
    load file word environment = .ok settings := by
  obtain ⟨refusal, load_eq⟩ := exists_load_eq file word environment
  simp only [load_eq, read, bind, Except.bind, made, valid]
  rfl

def headerField : String := "correlation_header"

def withoutHeader (held : Value) : Value :=
  .table (Assoc.erase headerField held.fields)

variable {held others value : Value} {header : String}

theorem sameApart_withoutHeader (held : Value) :
    Value.SameApart headerField (withoutHeader held) held :=
  fun _ different => Assoc.get?_erase_of_ne different held.fields

theorem ofValue?_of_sameApart {entries further : List (String × Value)}
    (same : Value.SameApart headerField (.table entries) (.table further))
    (absent : Assoc.get? headerField further = none)
    (found : Assoc.get? headerField entries = some value)
    (reads : value.text? = some header)
    (made : Settings.ofValue? (.table further) = some settings) :
    Settings.ofValue? (.table entries) =
      some { settings with correlationHeader := header } := by
  have sendTimeout := same "send_timeout_ms" (by decide)
  have partialOnExpiry := same "send_partial_result_on_expiry" (by decide)
  have store := same "store" (by decide)
  have reaper := same "reaper" (by decide)
  have standard : Reading.orStandard Reading.value.text?
        Settings.standard.correlationHeader (Assoc.get? "correlation_header"
          further) = some Settings.standard.correlationHeader := by
    rw [show Assoc.get? "correlation_header" further = none from absent,
      Reading.orStandard]
  have changed :
      Reading.orStandard Reading.value.text? Settings.standard.correlationHeader
        (Assoc.get? "correlation_header" entries) = some header := by
    rw [show Assoc.get? "correlation_header" entries = some value from found]
    exact reads
  have named : ∀ entries, Reading.value.parts? 5 (.table entries) =
      some (.named entries) :=
    fun _ => rfl
  simp only [Value.fields_table] at sendTimeout partialOnExpiry store reaper
  simp only [Settings.ofValue?, Reading.settings?, named, Section.field?,
    Option.bind_eq_bind, Option.bind_some, standard, changed, sendTimeout,
    partialOnExpiry, store, reaper] at made ⊢
  obtain ⟨_, readsTimeout, made⟩ := Option.bind_eq_some_iff.mp made
  obtain ⟨_, readsPartial, made⟩ := Option.bind_eq_some_iff.mp made
  obtain ⟨_, readsStore, made⟩ := Option.bind_eq_some_iff.mp made
  obtain ⟨_, readsReaper, made⟩ := Option.bind_eq_some_iff.mp made
  obtain rfl := Option.some.inj made
  rw [readsTimeout, Option.bind_some, readsPartial, Option.bind_some,
    readsStore, Option.bind_some, readsReaper, Option.bind_some]
  rfl

theorem validate_of_header (valid : settings.validate = .ok ())
    (nonblank : Text.isBlankText header = false) :
    ({ settings with correlationHeader := header } : Settings).validate =
      .ok () := by
  unfold Settings.validate at valid ⊢
  split at valid
  · exact absurd valid nofun
  · rename_i running
    split at valid
    · exact absurd valid nofun
    · rw [if_neg running, nonblank]
      exact valid

/-- A file that may be given, and variables, set everything but the header that
keys are read from, so that the program can run. -/
structure Equips (file : Option File) (word : String)
    (others : List (String × String)) (settings : Settings) : Prop where
  silent : ∀ setting ∈ others, ¬ Concerns word headerField setting
  made : ∃ fields, fieldsOf file = .ok fields ∧
    Settings.ofValue? (withoutHeader (layers fields word others)) =
      some settings
  valid : settings.validate = .ok ()

def headerVariable (word : String) : String :=
  word ++ Environment.separator ++ "CORRELATION_HEADER"

theorem pathOf?_headerVariable (word : String) :
    Environment.pathOf? word (headerVariable word) = some headerField := by
  rw [headerVariable, Environment.pathOf?_append]
  have small : Text.lowercase "CORRELATION_HEADER" = headerField := rfl
  rw [small]
  rfl

theorem layer_headerVariable (word text : String)
    (before after : List (String × String)) :
    Environment.layer word (before ++ (headerVariable word, text) :: after) =
      Environment.layer word before ++ (headerField,
        Environment.valueOf text) :: Environment.layer word after := by
  rw [layer_append]
  simp only [Environment.layer, List.filterMap_cons, pathOf?_headerVariable,
    Option.map_some]

theorem get?_put_header (reads : value.text? = some header) (held : Value) :
    Assoc.get? headerField (held.put (.ofText headerField) value).fields =
      some value := by
  have alone : Path.ofText headerField = { first := headerField, rest := [] } :=
    rfl
  have small : Text.lowercase headerField = headerField := rfl
  have replaces : ∀ before : Value, before.merged value = value := by
    intro before
    cases value with
    | table fields => exact absurd reads nofun
    | _ => rfl
  rw [alone]
  change Assoc.get? headerField (held.putField headerField value).fields =
    some value
  rw [Value.putField, small, Value.fields_table, replaces, Assoc.get?_put_self]

section Variable

variable {text : String}
  (silent : ∀ setting ∈ after, ¬ Concerns word headerField setting)

theorem layers_headerVariable (fields : List (String × Value))
    (word text : String) (before after : List (String × String)) :
    layers fields word (before ++ (headerVariable word, text) :: after) =
      ((layers fields word before).put (.ofText headerField)
        (Environment.valueOf text)).putAll (Environment.layer word after) := by
  rw [layers, layer_headerVariable, Value.putAll_append]
  rfl

theorem sameApart_layers (fields : List (String × Value)) (word text : String)
    (before after : List (String × String)) :
    Value.SameApart headerField
      (layers fields word (before ++ (headerVariable word, text) :: after))
      (layers fields word (before ++ after)) := by
  rw [layers_headerVariable, layers_append]
  refine Value.SameApart.putAll ?_ _
  have isThere : Text.lowercase (Path.ofText headerField).first = headerField :=
    rfl
  exact (Value.SameApart.refl headerField _).put_left isThere _

include silent

theorem get?_layers_header
    (reads : (Environment.valueOf text).text? = some header)
    (fields : List (String × Value)) (before : List (String × String)) :
    Assoc.get? headerField (layers fields word (before ++ (headerVariable word,
      text) :: after)).fields = some (Environment.valueOf text) := by
  rw [layers_headerVariable,
    Value.get?_putAll_of_ne fun entry isSet isHeader => ?_]
  · exact get?_put_header reads _
  · obtain ⟨setting, isSetting, made⟩ := List.mem_filterMap.mp isSet
    obtain ⟨path, isPath, rfl⟩ := Option.map_eq_some_iff.mp made
    exact silent setting isSetting ⟨path, isPath, isHeader.symm⟩

end Variable

theorem Equips.load_headerVariable {text : String}
    (equips : Equips file word (before ++ after) settings)
    (reads : (Environment.valueOf text).text? = some header)
    (nonblank : Text.isBlankText header = false) :
    load file word (before ++ (headerVariable word, text) :: after) =
      .ok { settings with correlationHeader := header } := by
  obtain ⟨fields, read, made⟩ := equips.made
  obtain ⟨entries, isTable⟩ := exists_layers_eq_table fields word
    (before ++ (headerVariable word, text) :: after)
  have silent : ∀ setting ∈ after, ¬ Concerns word headerField setting :=
    fun setting isSetting =>
      equips.silent setting (List.mem_append_right _ isSetting)
  have same := sameApart_layers fields word text before after
  have found := get?_layers_header silent reads fields before
  rw [isTable] at same found
  refine load_of_settings read ?_ (validate_of_header equips.valid nonblank)
  rw [isTable]
  exact ofValue?_of_sameApart (same.trans (sameApart_withoutHeader _).symm)
    (Assoc.get?_erase_self _ _) found reads made

end Collate.Config
