import Collate.Proofs.Config.Layers
import Collate.Proofs.Config.Wording
import Collate.Simulation.World

namespace Collate

/-- A value is a text or a number, or a document that is one. -/
def HeaderValue.IsTextOrNumber : HeaderValue → Prop
  | .text _ => True
  | .integer _ => True
  | .json (.text _) => True
  | .json (.number _) => True
  | _ => False

theorem Correlation.keyOfValue_eq_none_iff {value : HeaderValue} :
    keyOfValue value = none ↔ ¬ value.IsTextOrNumber := by
  cases value with
  | json document =>
      cases document <;> simp [keyOfValue, HeaderValue.IsTextOrNumber]
  | _ => simp [keyOfValue, HeaderValue.IsTextOrNumber]

theorem Correlation.byHeader_eq_none_iff {name : String} {message : Message} :
    byHeader name message = none ↔
    ∀ value, message.headers.get? name = some value →
      ¬ value.IsTextOrNumber := by
  rw [byHeader, Option.bind_eq_none_iff]
  exact forall₂_congr fun _ _ => keyOfValue_eq_none_iff

namespace Simulation

structure World.Has (world : World) (name : String)
    (state : HandlerState) : Prop where
  named : ∃ number, world.handlerNumber? name = some number ∧
    (number, state) ∈ world.handlers

theorem Moment.exists_of_buildHandler {script : HandlerScript}
    (usual : script.correlation = none) (name : String) (world : World) :
    ∃ state, (buildHandler name script world).2.Has name state ∧
      state.handler.correlation = Correlation.byHeader
        (script.settings.getD .standard).correlationHeader := by
  obtain ⟨processor, settings, correlation, policy, output, discard,
      sendTimeout, partialOnExpiry⟩ :=
    script
  obtain rfl : correlation = none := usual
  cases output <;> cases discard <;>
    exact ⟨_, ⟨⟨_, Assoc.get?_put_self name _ _,
      List.mem_append_right _ List.mem_cons_self⟩⟩, rfl⟩

end Simulation

namespace Config

open Simulation (HandlerScript World Moment)

variable {file : Option File} {word text : String}
  {before after : List (String × String)} {settings : Settings}

/-- Where the rest of the settings is in order, a variable with something in it
names the header that keys are read from. The header has the variable's text,
character for character, exactly if that is not a truth value or a number, or if
it is one and written as truth values and numbers are; of all other truth values
and numbers it has the usual writing. A handler that is built with the settings
finds in a message the key that is under this header, and none if there is no
text and no number. -/
theorem header_named_by_variable
    (equips : Equips file word (before ++ after) settings)
    (nonblank : Text.isBlankText text = false) :
    ∃ header, Rewrites text header ∧ (header = text ↔ Kept text) ∧
      load file word (before ++ (headerVariable word, text) :: after) =
        .ok { settings with correlationHeader := header } ∧
      ∀ (name : String) (script : HandlerScript) (world : World),
        script.settings = some { settings with correlationHeader := header } →
          script.correlation = none →
          ∃ state, (Moment.buildHandler name script world).2.Has name state ∧
            ∀ message,
              state.handler.correlation message =
                (message.headers.get? header).bind Correlation.keyOfValue ∧
                (state.handler.correlation message = none ↔
                  ∀ value, message.headers.get? header = some value →
                    ¬ value.IsTextOrNumber) := by
  obtain ⟨header, rewrites⟩ := exists_rewrites text
  have loaded := equips.load_headerVariable rewrites.text?_valueOf
      (rewrites.nonblank nonblank)
  refine ⟨header, rewrites, rewrites.eq_iff, loaded,
    fun name script world configured usual => ?_⟩
  obtain ⟨state, has, correlation_eq⟩ :=
    Moment.exists_of_buildHandler usual name world
  rw [configured, Option.getD_some] at correlation_eq
  refine ⟨state, has, fun message => ?_⟩
  rw [correlation_eq]
  exact ⟨rfl, Correlation.byHeader_eq_none_iff⟩

/-! A name that no number has is kept, next to another variable. -/

def capacityOfSeven : List (String × String) :=
  [("CORRELATOR__STORE__CAPACITY", "7")]

theorem batch_names_header :
    Equips none "CORRELATOR" (capacityOfSeven ++ []) { Settings.standard with
      store := ⟨7⟩ } ∧
    Text.isBlankText "batch" = false ∧
    load none "CORRELATOR" (capacityOfSeven ++
      [(headerVariable "CORRELATOR", "batch")]) = .ok { Settings.standard with
        store := ⟨7⟩, correlationHeader := "batch" } := by
  have nonblank : Text.isBlankText "batch" = false := by decide
  have equips : Equips none "CORRELATOR" (capacityOfSeven ++ [])
      { Settings.standard with store := ⟨7⟩ } := by
    refine ⟨fun setting isSetting => ?_, ⟨[], rfl, by decide +kernel⟩, rfl⟩
    obtain rfl := List.mem_singleton.mp isSetting
    rintro ⟨path, isPath, isHeader⟩
    obtain rfl : "store.capacity" = path := Option.some.inj isPath
    exact absurd isHeader (by decide +kernel)
  have kept : Kept "batch" :=
    .verbatim (not_or.mpr ⟨by decide +kernel, by decide +kernel⟩) (by decide)
      (by decide +kernel)
  obtain ⟨header, -, same, loaded, -⟩ :=
    header_named_by_variable equips nonblank
  obtain rfl : header = "batch" := same.mpr kept
  exact ⟨equips, nonblank, loaded⟩

/-! Zeros in front of a number are lost, and with them the keys of messages. -/

def underZeros : Message :=
  ((Draft.ofPayload .null).header "007" (.text "k")).build ⟨⟨0⟩, 0⟩

theorem zeros_rename_header :
    Equips none "CORRELATOR" ([] ++ []) .standard ∧
    Text.isBlankText "007" = false ∧
    load none "CORRELATOR" [(headerVariable "CORRELATOR", "007")] =
      .ok { Settings.standard with correlationHeader := "7" } ∧ "7" ≠ "007" ∧
    Correlation.byHeader "007" underZeros = some ⟨"k"⟩ ∧
    Correlation.byHeader "7" underZeros = none := by
  have equips : Equips none "CORRELATOR" ([] ++ []) .standard :=
    ⟨fun _ isSetting => absurd isSetting List.not_mem_nil, ⟨[], rfl, rfl⟩, rfl⟩
  have isInteger : Number.signed64? "007" = some 7 := by decide
  have rewrites : Rewrites "007" "7" :=
    .integer (not_isTruth_of_integer isInteger) isInteger
  have loaded := equips.load_headerVariable rewrites.text?_valueOf (by decide)
  exact ⟨equips, by decide, loaded, by decide, rfl, rfl⟩

end Config

end Collate
