import Automation.Catalog.Bundled
import Automation.Proofs.Compilation.Shape
import Automation.Proofs.Console.Message
import Automation.Proofs.Console.Unmarked
import Automation.Proofs.Resolution
import Automation.Proofs.Text.Words

/-!
This module contains the delivery of blueprints by the console. What is printed without a target is
written to the target, and the verdict is the same if what is told of the file can be printed; that
is so where no bracket opens in the name, the placeholders and the target.
-/

namespace Automation

section Fallbacks

def fallbackTypes : List String :=
  ["webhook.customWebhook", "flow.sleep", "util.jsonParser", "http.makeRequest"]

theorem moduleType_of_isFallback_trigger {catalog : Catalog} {clause : Option String}
    (h : (Resolution.trigger catalog clause).isFallback = true) :
    (Resolution.trigger catalog clause).moduleType ∈ fallbackTypes := by
  rw [Resolution.trigger_eq] at h ⊢
  dsimp only at h ⊢
  split at h
  . cases h
  . exact List.mem_cons_self ..

theorem moduleType_of_isFallback_action {catalog : Catalog} {sleepSeconds : Json} {clause : String}
    (h : (Resolution.action catalog sleepSeconds clause).isFallback = true) :
    (Resolution.action catalog sleepSeconds clause).moduleType ∈ fallbackTypes := by
  rw [Resolution.action_eq] at h ⊢
  dsimp only at h ⊢
  split at h
  . cases h
  . change (Choice.fallbackAction sleepSeconds _).moduleType ∈ fallbackTypes
    unfold Choice.fallbackAction
    split
    . simp [fallbackTypes]
    . split <;> simp [fallbackTypes]

theorem moduleType_of_mem_fallbacks {t : Tuning} {catalog : Catalog} {sleepSeconds name : Json}
    {description : String} {c : Compilation}
    (hc : (compileText t catalog sleepSeconds description name).result = .ok c) :
    ∀ f ∈ Resolution.fallbacks c.resolutions, ∃ s ∈ fallbackTypes, f.moduleType = .string s := by
  obtain ⟨-, hblank, hresolutions, -⟩ := Compilation.eq_of_compileText hc
  unfold Resolution.fallbacks
  rw [List.forall_mem_map]
  intro r hr
  obtain ⟨hr, hfallback⟩ := List.mem_filter.1 hr
  refine ⟨r.moduleType, ?_, rfl⟩
  rw [hresolutions, Compilation.resolve, hblank] at hr
  rcases List.mem_cons.1 hr with rfl | hr
  . exact moduleType_of_isFallback_trigger hfallback
  . obtain ⟨action, -, rfl⟩ := List.mem_map.1 hr
    exact moduleType_of_isFallback_action hfallback

end Fallbacks

namespace Console

open Json (Unbroken)
open Markup (IsStyle IsUnmarked styled)

section Lines

/-- No bracket opens in the text, and there is no lone half in it. -/
def IsVerbatim (gs : List Glyph) : Prop :=
  IsUnmarked gs ∧ Unbroken gs

theorem IsVerbatim.append {gs hs : List Glyph} (h : IsVerbatim gs) (h' : IsVerbatim hs) :
    IsVerbatim (gs ++ hs) :=
  ⟨fun hmem => (List.mem_append.1 hmem).elim h.1 h'.1, h.2.append h'.2⟩

theorem isVerbatim_chars {cs : List Char} (h : '[' ∉ cs) : IsVerbatim (cs.map .char) := by
  refine ⟨fun hmem => ?_, Unbroken.chars cs⟩
  obtain ⟨c, hc, heq⟩ := List.mem_map.1 hmem
  cases heq
  exact h hc

theorem isVerbatim_intercalate {ts : List Text} (h : ∀ t ∈ ts, IsVerbatim t.glyphs) :
    IsVerbatim (Text.intercalate ", " ts).glyphs := by
  have hseparator : IsVerbatim (Text.glyphs ", ") := isVerbatim_chars (by decide)
  have hmem {g : Glyph} (hg : g ∈ (Text.intercalate ", " ts).glyphs) :
      g ∈ Text.glyphs ", " ∨ ∃ t ∈ ts, g ∈ t.glyphs := by
    rw [Text.glyphs_intercalate] at hg
    rcases Text.mem_intercalate hg with hg | ⟨gs, hgs, hg⟩
    . exact .inl hg
    . obtain ⟨t, ht, rfl⟩ := List.mem_map.1 hgs
      exact .inr ⟨t, ht, hg⟩
  constructor
  . intro hbracket
    rcases hmem hbracket with hg | ⟨t, ht, hg⟩
    . exact hseparator.1 hg
    . exact (h t ht).1 hg
  . intro g hg
    rcases hmem hg with hg | ⟨t, ht, hg⟩
    . exact hseparator.2 g hg
    . exact (h t ht).2 g hg

theorem isPrintable_of_isVerbatim {m : Text} (h : IsVerbatim m.glyphs) : IsPrintable m := by
  apply isPrintable_of_render (Markup.render_unmarked h.1)
  rw [Unbroken.iff_forall_half]
  intro half hmem
  rw [Markup.mem_expandTabs (by simp), Markup.mem_showPlain rfl] at hmem
  exact Unbroken.iff_forall_half.1 h.2 half hmem.1

theorem isPrintable_styled {m : Text} (word : List Char) (inner outer : List Glyph)
    (hm : m.glyphs = styled (word.map .char) inner outer) (hword : IsStyle (word.map .char))
    (hinner : IsVerbatim inner) (houter : IsVerbatim outer) : IsPrintable m := by
  obtain ⟨shown, hrender, hhalves⟩ := Markup.exists_render_styled hword hinner.1 houter.1
  rw [← hm] at hrender
  apply isPrintable_of_render hrender
  rw [Unbroken.iff_forall_half]
  intro half hmem
  have hstyled : Unbroken (styled (word.map .char) inner outer) := by
    simp only [styled, Markup.bracketed, Unbroken.append_iff, Unbroken.cons_iff]
    exact ⟨⟨Unbroken.chars word, Unbroken.nil⟩, hinner.2,
      ⟨Unbroken.chars word, Unbroken.nil⟩, houter.2⟩
  exact Unbroken.iff_forall_half.1 hstyled half (hhalves half hmem)

theorem isStyle_dim : IsStyle ("dim".toList.map .char) where
  isTag := ⟨by decide, by decide⟩
  isClosingTag := ⟨by decide, by decide⟩
  opening := by decide +kernel
  closing := by decide +kernel
  styleName := eq_ok_of_toOption (by decide +kernel)

theorem isPrintable_fallbackLine {ts : List Text} (h : ∀ t ∈ ts, IsVerbatim t.glyphs) :
    IsPrintable ("[yellow]Fallback modules:[/yellow] " ++ Text.intercalate ", " ts) := by
  apply isPrintable_styled "yellow".toList ("Fallback modules:".toList.map .char)
    (" ".toList.map .char ++ (Text.intercalate ", " ts).glyphs)
  . rw [Text.glyphs_append]
    rfl
  . exact isStyle_of_mem (by decide)
  . exact isVerbatim_chars (by decide)
  . exact (isVerbatim_chars (by decide)).append (isVerbatim_intercalate h)

def placeholderLine (placeholders : List Text) : Text :=
  "[dim]Placeholders to fill: " ++ Text.intercalate ", " placeholders ++ "[/dim]"

theorem isPrintable_placeholderLine {ts : List Text} (h : ∀ t ∈ ts, IsVerbatim t.glyphs) :
    IsPrintable (placeholderLine ts) := by
  apply isPrintable_styled "dim".toList
    ("Placeholders to fill: ".toList.map .char ++ (Text.intercalate ", " ts).glyphs) []
  . rw [placeholderLine, Text.glyphs_append, Text.glyphs_append]
    simp [styled, Markup.bracketed, Text.glyphs]
  . exact isStyle_dim
  . exact (isVerbatim_chars (by decide)).append (isVerbatim_intercalate h)
  . exact ⟨List.not_mem_nil, Unbroken.nil⟩

def targetLine (target : String) : Text :=
  .whole ("[green]✓[/green] Wrote " ++ target)

theorem isPrintable_targetLine {target : String} (h : '[' ∉ target.toList) :
    IsPrintable (targetLine target) := by
  apply isPrintable_styled "green".toList ("✓".toList.map .char)
    (" Wrote ".toList.map .char ++ target.toList.map .char)
  . rw [targetLine, Text.glyphs, String.toList_append, List.map_append]
    rfl
  . exact isStyle_of_mem (by decide)
  . exact isVerbatim_chars (by decide)
  . exact (isVerbatim_chars (by decide)).append (isVerbatim_chars h)

end Lines

section Delivery

variable (t : Tuning) (file : String) (catalog : Except Catalog.Failure Catalog)
  (options : ComposeOptions)

def IsComposed (c : Compilation) : Prop :=
  ∃ modules, catalog = .ok modules ∧
    (compileText t modules (.int t.sleepSeconds) options.description options.title).result = .ok c

theorem ending_fail (o : Outcome) (title : String) (errors : List Text) :
    (o.fail title errors).ending ≠ .succeeded := by
  obtain ⟨told, htold⟩ := exists_fail o title errors
  rw [htold]
  exact Ending.noConfusion

theorem ending_crash (o : Outcome) (crash : Crash) : (o.crash crash).ending ≠ .succeeded :=
  Ending.noConfusion

theorem compose_of_noCatalog {f : Catalog.Failure} (h : ∀ fault, f ≠ .fault fault) :
    compose t file (.error f) options =
      Outcome.fail {} "Catalog could not be loaded" [f.message] := by
  cases f with
  | fault fault => exact absurd rfl (h fault)
  | _ => rfl

def logged (modules : Catalog) : List Log.Event :=
  .catalogLoaded file modules.entries.length modules.version ::
    (compileText t modules (.int t.sleepSeconds) options.description options.title).events

theorem compose_of_composed {modules : Catalog} {c : Compilation}
    (h : (compileText t modules (.int t.sleepSeconds) options.description options.title).result =
      .ok c) : compose t file (.ok modules) options =
        deliver { events := logged t file options modules } c options.target := by
  unfold compose
  dsimp only
  rw [h]
  rfl

def Outcome.refuse (o : Outcome) : Compilation.Failure → Outcome
  | .invalid errors => o.fail "Blueprint rejected" errors
  | .refused r => o.crash (.refused r)
  | .fault fault => o.crash (.fault fault)

theorem ending_refuse (o : Outcome) (f : Compilation.Failure) :
    (o.refuse f).ending ≠ .succeeded := by
  cases f with
  | invalid errors => exact ending_fail o "Blueprint rejected" errors
  | refused r => exact ending_crash o (.refused r)
  | fault fault => exact ending_crash o (.fault fault)

theorem compose_of_failure {modules : Catalog} {f : Compilation.Failure}
    (h : (compileText t modules (.int t.sleepSeconds) options.description options.title).result =
      .error f) : compose t file (.ok modules) options =
        Outcome.refuse { events := logged t file options modules } f := by
  unfold compose
  dsimp only
  rw [h]
  cases f <;> rfl

/-- Without a blueprint a command does the same for every target; else it delivers the blueprint. -/
theorem compose_cases :
    (∃ o : Outcome, o.ending ≠ .succeeded ∧
      ∀ target, compose t file catalog { options with target } = o) ∨
    ∃ c events, IsComposed t catalog options c ∧
      ∀ target, compose t file catalog { options with target } = deliver { events } c target := by
  cases catalog with
  | error f =>
    left
    by_cases hf : ∀ fault, f ≠ .fault fault
    . exact ⟨Outcome.fail {} "Catalog could not be loaded" [f.message], ending_fail _ _ _,
        fun target => compose_of_noCatalog t file _ hf⟩
    . cases f with
      | fault fault => exact ⟨_, ending_crash {} (.fault fault), fun _ => rfl⟩
      | _ => exact absurd nofun hf
  | ok modules =>
    cases h : (compileText t modules (.int t.sleepSeconds) options.description
      options.title).result with
    | ok c =>
      exact .inr ⟨c, logged t file options modules, ⟨modules, rfl, h⟩,
        fun target => compose_of_composed t file { options with target } h⟩
    | error f =>
      have hcompose (target : Option String) :=
        compose_of_failure t file { options with target } h
      exact .inl ⟨Outcome.refuse { events := logged t file options modules } f,
        ending_refuse _ f, hcompose⟩

structure IsPresentable (c : Compilation) (target : String) : Prop where
  name : IsPrintable c.blueprint.name.text
  placeholders : c.blueprint.placeholders ≠ [] →
    IsPrintable (placeholderLine c.blueprint.placeholders)
  target : IsPrintable (targetLine target)

theorem forall_writtenMessages_iff {c : Compilation}
    (h : ∀ f ∈ Resolution.fallbacks c.resolutions, IsVerbatim f.moduleType.text.glyphs)
    (target : String) : (∀ m ∈ writtenMessages c target, IsPrintable m) ↔
      (c.blueprint.placeholders ≠ [] → IsPrintable (placeholderLine c.blueprint.placeholders)) ∧
        IsPrintable (targetLine target) := by
  have hfallbacks : IsPrintable ("[yellow]Fallback modules:[/yellow] " ++
      Text.intercalate ", " ((Resolution.fallbacks c.resolutions).map (·.moduleType.text))) := by
    apply isPrintable_fallbackLine
    rwa [List.forall_mem_map]
  unfold writtenMessages
  dsimp only
  rw [List.forall_mem_append, List.forall_mem_append, List.forall_mem_singleton]
  constructor
  . rintro ⟨⟨-, hplaceholders⟩, htarget⟩
    refine ⟨fun hne => ?_, htarget⟩
    rw [if_neg (by simpa using hne), List.forall_mem_singleton] at hplaceholders
    exact hplaceholders
  . rintro ⟨hplaceholders, htarget⟩
    refine ⟨⟨?_, ?_⟩, htarget⟩
    . split
      . exact List.forall_mem_nil _
      . rwa [List.forall_mem_singleton]
    . split
      . exact List.forall_mem_nil _
      . rename_i hne
        rw [List.forall_mem_singleton]
        exact hplaceholders (by simpa using hne)

theorem deliver_cases (o : Outcome) (c : Compilation) :
    (∃ crash, ∀ target, deliver o c target = o.crash crash) ∨
    ∃ document, c.blueprint.toJson = .ok document ∧ document.isWritable = true := by
  cases h : c.blueprint.toJson with
  | error f => exact .inl ⟨.fault f, fun target => by rw [deliver, h]⟩
  | ok document =>
    cases hwritable : document.isWritable with
    | false =>
      refine .inl ⟨.fault .unwritableNumber, fun target => ?_⟩
      simp [deliver, h, hwritable]
    | true => exact .inr ⟨document, rfl, hwritable⟩

section Document

variable {c : Compilation} {document : Json}

theorem deliver_none (hdocument : c.blueprint.toJson = .ok document)
    (hwritable : document.isWritable = true) (o : Outcome) :
    deliver o c none = { o with output := o.output ++ (document.lines ++ "\n") } := by
  simp [deliver, hdocument, hwritable]

theorem deliver_some (hdocument : c.blueprint.toJson = .ok document)
    (hwritable : document.isWritable = true) {o : Outcome} (ho : o.ending = .succeeded)
    (target : String) :
    (deliver o c (some target)).file = some (document.lines ++ "\n") ∧
    ((deliver o c (some target)).ending = .succeeded ↔ IsPrintable c.blueprint.name.text ∧
      ∀ m ∈ writtenMessages c target, IsPrintable m) := by
  rw [IsPrintable]
  cases hname : printed c.blueprint.name.text with
  | error crash =>
    have hdeliver : deliver o c (some target) =
        Outcome.crash { o with file := some (document.lines ++ "\n") } crash := by
      simp [deliver, hdocument, hwritable, hname]
    rw [hdeliver]
    exact ⟨rfl, by simp [Outcome.crash]⟩
  | ok s =>
    have hdeliver : deliver o c (some target) = Outcome.say
        { o with file := some (document.lines ++ "\n") } (writtenMessages c target) := by
      simp [deliver, hdocument, hwritable, hname]
    have hending := ending_say (o := { o with file := some (document.lines ++ "\n") }) ho
      (writtenMessages c target)
    obtain ⟨output, ending, hsay⟩ :=
      exists_say { o with file := some (document.lines ++ "\n") } (writtenMessages c target)
    have hprinted : ∃ s', (.ok s : Except Crash String) = .ok s' := ⟨s, rfl⟩
    rw [hdeliver, and_iff_right hprinted]
    exact ⟨by rw [hsay], hending⟩

end Document

structure SameVerdict (printed written : Outcome) : Prop where
  ending : written.ending = .succeeded ↔ printed.ending = .succeeded
  file : printed.ending = .succeeded → written.file = some printed.output

theorem SameVerdict.of_not_succeeded {o : Outcome} (h : o.ending ≠ .succeeded) : SameVerdict o o :=
  ⟨Iff.rfl, fun hending => absurd hending h⟩

theorem isVerbatim_fallbacks {c : Compilation} (hc : IsComposed t catalog options c) :
    ∀ f ∈ Resolution.fallbacks c.resolutions, IsVerbatim f.moduleType.text.glyphs := by
  obtain ⟨modules, -, hc⟩ := hc
  intro f hf
  obtain ⟨s, hs, htype⟩ := moduleType_of_mem_fallbacks hc f hf
  have hfallbacks : ∀ s ∈ fallbackTypes, '[' ∉ s.toList := by decide
  rw [htype]
  exact isVerbatim_chars (hfallbacks s hs)

theorem IsComposed.unique {c d : Compilation} (hc : IsComposed t catalog options c)
    (hd : IsComposed t catalog options d) : c = d := by
  obtain ⟨modules, hmodules, hc⟩ := hc
  obtain ⟨_, heq, hd⟩ := hd
  rw [hmodules] at heq
  cases heq
  rw [hc] at hd
  exact Except.ok.inj hd

theorem isPresentable_of_isVerbatim {c : Compilation} {target : String}
    (hname : IsVerbatim c.blueprint.name.text.glyphs)
    (hplaceholders : ∀ p ∈ c.blueprint.placeholders, IsVerbatim p.glyphs)
    (htarget : '[' ∉ target.toList) :
    IsPresentable c target where
  name := isPrintable_of_isVerbatim hname
  placeholders _ := isPrintable_placeholderLine hplaceholders
  target := isPrintable_targetLine htarget

theorem sameVerdict_of_document {c : Compilation} (hc : IsComposed t catalog options c)
    {document : Json} (hdocument : c.blueprint.toJson = .ok document)
    (hwritable : document.isWritable = true) (events : List Log.Event) (target : String) :
    (deliver { events } c none).ending = .succeeded ∧
    (deliver { events } c (some target)).file = some (deliver { events } c none).output ∧
    ((deliver { events } c (some target)).ending = .succeeded ↔ IsPresentable c target) := by
  obtain ⟨hfile, hending⟩ := deliver_some (o := { events }) hdocument hwritable rfl target
  rw [deliver_none hdocument hwritable]
  refine ⟨rfl, by rw [hfile, String.empty_append], ?_⟩
  rw [hending, forall_writtenMessages_iff (isVerbatim_fallbacks t catalog options hc)]
  exact ⟨fun ⟨hname, hplaceholders, htarget⟩ => ⟨hname, hplaceholders, htarget⟩,
    fun h => ⟨h.name, h.placeholders, h.target⟩⟩

/-- A blueprint is written as it is printed, and the verdict is the same if all that is told of the
file can be printed. -/
theorem sameVerdict_iff (target : String) :
    (SameVerdict (compose t file catalog { options with target := none })
      (compose t file catalog { options with target := some target }) ↔
        ∀ c, IsComposed t catalog options c →
          (compose t file catalog { options with target := none }).ending = .succeeded →
            IsPresentable c target) ∧
    ((compose t file catalog { options with target := none }).ending = .succeeded →
      (compose t file catalog { options with target := some target }).file =
        some (compose t file catalog { options with target := none }).output) ∧
    ∀ c, IsComposed t catalog options c → IsVerbatim c.blueprint.name.text.glyphs →
      (∀ p ∈ c.blueprint.placeholders, IsVerbatim p.glyphs) → '[' ∉ target.toList →
        IsPresentable c target := by
  have hverbatim : ∀ c, IsComposed t catalog options c → IsVerbatim c.blueprint.name.text.glyphs →
      (∀ p ∈ c.blueprint.placeholders, IsVerbatim p.glyphs) → '[' ∉ target.toList →
        IsPresentable c target :=
    fun c _ => isPresentable_of_isVerbatim
  rcases compose_cases t file catalog options with ⟨o, ho, hcompose⟩ | ⟨c, events, hc, hcompose⟩
  . rw [hcompose none, hcompose (some target)]
    exact ⟨iff_of_true (.of_not_succeeded ho) fun _ _ h => absurd h ho, fun h => absurd h ho, hverbatim⟩
  . rw [hcompose none, hcompose (some target)]
    rcases deliver_cases { events } c with ⟨crash, hdeliver⟩ | ⟨document, hdocument, hwritable⟩
    . have ho := ending_crash { events } crash
      rw [hdeliver none, hdeliver (some target)]
      exact ⟨iff_of_true (.of_not_succeeded ho) fun _ _ h => absurd h ho, fun h => absurd h ho,
        hverbatim⟩
    . obtain ⟨hprinted, hfile, hending⟩ :=
        sameVerdict_of_document t catalog options hc hdocument hwritable events target
      refine ⟨⟨fun h d hd _ => ?_, fun h => ⟨?_, fun _ => hfile⟩⟩, fun _ => hfile, hverbatim⟩
      . rw [← hc.unique t catalog options hd]
        exact hending.mp (h.ending.mpr hprinted)
      . exact iff_of_true (hending.mpr (h c hc hprinted)) hprinted

def closingOptions (target : Option String) : ComposeOptions where
  description := "post to slack"
  name := some "[/b]"
  target := target

/-- A name that closes no style is printed in the document, but the console cannot tell it. -/
theorem not_sameVerdict_of_closingName :
    (compose {} "modules.json" (.ok Catalog.bundled) (closingOptions none)).ending = .succeeded ∧
    (compose {} "modules.json" (.ok Catalog.bundled) (closingOptions (some "out.json"))).ending =
      .crashed (.markup .unbalanced) ∧
    ¬SameVerdict (compose {} "modules.json" (.ok Catalog.bundled) (closingOptions none))
      (compose {} "modules.json" (.ok Catalog.bundled) (closingOptions (some "out.json"))) := by
  have hprinted : (compose {} "modules.json" (.ok Catalog.bundled)
      (closingOptions none)).ending = .succeeded := by
    decide +kernel
  have hwritten : (compose {} "modules.json" (.ok Catalog.bundled)
      (closingOptions (some "out.json"))).ending = .crashed (.markup .unbalanced) := by
    decide +kernel
  refine ⟨hprinted, hwritten, fun h => ?_⟩
  have hending := h.ending.mpr hprinted
  rw [hwritten] at hending
  cases hending

end Delivery

end Console

end Automation
