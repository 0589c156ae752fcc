import FeatureDocs.Command.Run
import FeatureDocs.Proofs.BuildPlan
import FeatureDocs.Proofs.SortedStore

/-!
# Checked settings wire a renderer that cannot fail

The settings are checked once they are loaded and the command line has been applied, and the
build then reads its page settings off them. Two of the checks are made a second time there, in
another form: the step format is counted for placeholders by the check, and split at its
placeholder by the decoration; the link rules named for tags and steps are looked up in the
settings by the check, and in a registry built from them by the build. This module shows that the
two sides agree, so that no build of checked settings stops at its decoration or its links.

* `placeholderCount_eq_countP_tails`: the count of placeholders is the number of places where
  `{}` starts;
* `placeholderCount_append_placeholder`, `splitAtPlaceholder_append`: a format around one
  placeholder;
* `Decoration.ofTemplate_eq_error_iff`, `Decoration.ofTemplate_of_placeholderCount_eq_one`: when a
  format is refused, and what it makes of a step when it is not;
* `Config.validateRender_eq_ok_iff`: what the render check asks;
* `linkRegistry_names`, `chosenRule_ne_error`: the registry has the rules the settings name;
* `plan_eq_error`, `plan_eq_ok`, `plan_ne_decoration`, `plan_ne_link`: how a plan fails, and what
  it takes from the settings;
* `Decoration.Fills`, `WiredRenderer`: what a decoration and a wired renderer are;
* **`checked_settings_wiring`**: the decoration, the quote and the links of checked settings.
-/

namespace FeatureDocs.Render

/-! ## Placeholders -/

theorem placeholderCount_placeholder (rest : List Char) :
    placeholderCount ('{' :: '}' :: rest) = placeholderCount rest + 1 := rfl

theorem placeholderCount_cons_of_not {c : Char} {rest : List Char}
    (h : ∀ rest', c = '{' → rest = '}' :: rest' → False) :
    placeholderCount (c :: rest) = placeholderCount rest :=
  placeholderCount.eq_2 c rest h

/-- **The count is the number of occurrences.** Two placeholders never overlap, so counting them
left to right counts every place where `{}` starts. -/
theorem placeholderCount_eq_countP_tails (l : List Char) :
    placeholderCount l = l.tails.countP fun t => ['{', '}'].isPrefixOf t := by
  fun_induction placeholderCount l with
  | case1 rest ih => simp [ih, List.isPrefixOf]
  | case2 c rest hc ih =>
    -- the text starting at `c` does not start with a placeholder
    have hnot : ['{', '}'].isPrefixOf (c :: rest) = false := by
      cases rest with
      | nil => simp [List.isPrefixOf]
      | cons d rest =>
        by_cases hcd : c = '{' ∧ d = '}'
        · exact (hc rest hcd.1 (by rw [hcd.2])).elim
        · simp only [List.isPrefixOf, Bool.and_eq_false_iff, beq_eq_false_iff_ne, ne_eq]
          by_cases hc' : c = '{'
          · exact .inr (.inl fun hd => hcd ⟨hc', hd.symm⟩)
          · exact .inl fun h => hc' h.symm
    rw [List.tails_cons, List.countP_cons, hnot, ih]
    rfl
  | case3 => rfl

theorem not_opens_append_placeholder {c : Char} {rest : List Char}
    (hc : ∀ rest', c = '{' → rest = '}' :: rest' → False) (post : List Char) :
    ∀ rest', c = '{' → rest ++ '{' :: '}' :: post = '}' :: rest' → False := by
  intro rest' hc' hrest
  cases rest with
  | nil => cases hrest
  | cons d ds =>
    obtain ⟨rfl, -⟩ := List.cons.inj hrest
    exact hc ds hc' rfl

/-- A text followed by a placeholder does not start a placeholder across the boundary: its
placeholders are its own and the added one. -/
theorem placeholderCount_append_placeholder (pre post : List Char) :
    placeholderCount (pre ++ '{' :: '}' :: post) =
      placeholderCount pre + 1 + placeholderCount post := by
  fun_induction placeholderCount pre with
  | case1 rest ih =>
    rw [List.cons_append, List.cons_append, placeholderCount_placeholder, ih]
    omega
  | case2 c rest hc ih =>
    rw [List.cons_append, placeholderCount_cons_of_not (not_opens_append_placeholder hc post), ih]
  | case3 =>
    rw [List.nil_append, placeholderCount_placeholder]
    show _ = 0 + 1 + _
    omega

theorem splitAtPlaceholder_append {pre : List Char} (hpre : placeholderCount pre = 0)
    (post : List Char) : splitAtPlaceholder (pre ++ '{' :: '}' :: post) = some (pre, post) := by
  fun_induction placeholderCount pre with
  | case1 => simp at hpre
  | case2 c rest hc ih =>
    rw [List.cons_append, splitAtPlaceholder.eq_2 _ _ (not_opens_append_placeholder hc post),
      ih hpre]
    rfl
  | case3 => rfl

theorem exists_eq_placeholder {l : List Char} (h : 0 < placeholderCount l) :
    ∃ pre post, l = pre ++ '{' :: '}' :: post ∧ placeholderCount pre = 0 := by
  fun_induction placeholderCount l with
  | case1 rest => exact ⟨[], rest, rfl, rfl⟩
  | case2 c rest hc ih =>
    obtain ⟨pre, post, rfl, hpre⟩ := ih h
    refine ⟨c :: pre, post, rfl, ?_⟩
    rw [placeholderCount_cons_of_not, hpre]
    intro rest' hc' hpre'
    exact hc _ hc' (by rw [hpre', List.cons_append])
  | case3 => simp at h

theorem splitAtPlaceholder_of_eq {l pre post : List Char} (h : placeholderCount l = 1)
    (hl : l = pre ++ '{' :: '}' :: post) : splitAtPlaceholder l = some (pre, post) := by
  have hcount := placeholderCount_append_placeholder pre post
  rw [← hl, h] at hcount
  rw [hl]
  exact splitAtPlaceholder_append (by omega) post

theorem toList_placeholder : "\x7b\x7d".toList = ['{', '}'] := rfl

theorem eq_placeholder_iff {t pre post : String} :
    t = pre ++ "\x7b\x7d" ++ post ↔ t.toList = pre.toList ++ '{' :: '}' :: post.toList := by
  rw [← String.toList_inj, String.toList_append, String.toList_append, toList_placeholder,
    List.append_assoc, List.cons_append, List.cons_append, List.nil_append]

/-! ## Decorations -/

namespace Decoration

/-- **A format is refused exactly when it does not have one placeholder**, and the error gives
the format and its number of placeholders. -/
theorem ofTemplate_eq_error_iff {t : String} {e : DecorationError} :
    ofTemplate t = .error e ↔
      placeholderCount t.toList ≠ 1 ∧ e = ⟨t, placeholderCount t.toList⟩ := by
  unfold ofTemplate
  cases hs : splitAtPlaceholder t.toList with
  | none =>
    -- without a split there is no placeholder at all
    have hzero : placeholderCount t.toList = 0 := by
      by_contra hne
      obtain ⟨pre, post, hl, hpre⟩ := exists_eq_placeholder (Nat.pos_of_ne_zero hne)
      rw [hl, splitAtPlaceholder_append hpre] at hs
      cases hs
    simp only [hzero, Except.error.injEq]
    exact ⟨fun h => ⟨by decide, h.symm⟩, fun h => h.2.symm⟩
  | some p =>
    obtain ⟨pre, post⟩ := p
    by_cases h1 : placeholderCount t.toList = 1
    · simp only [h1, if_true, ne_eq, not_true_eq_false, false_and, iff_false]
      split <;> simp
    · simp only [h1, if_false, ne_eq, not_false_eq_true, true_and, Except.error.injEq]
      exact eq_comm

example : ofTemplate "\x7b\x7d and \x7b\x7d" = .error ⟨"\x7b\x7d and \x7b\x7d", 2⟩ := rfl

/-- A decoration writes a step in place of the one placeholder of a format: the format is a text
around its placeholder, in one way only, and the decoration is plain exactly for the placeholder
alone. -/
structure Fills (d : Decoration) (format : String) : Prop where
  around : ∃ pre post, format = pre ++ "\x7b\x7d" ++ post
  apply_eq : ∀ pre post, format = pre ++ "\x7b\x7d" ++ post → ∀ x, d.apply x = pre ++ x ++ post
  plain_iff : d = .plain ↔ format = "\x7b\x7d"

/-- **A format with one placeholder is accepted**, and its decoration fills the placeholder. -/
theorem ofTemplate_of_placeholderCount_eq_one {t : String} (hone : placeholderCount t.toList = 1) :
    ∃ d, ofTemplate t = .ok d ∧ d.Fills t := by
  obtain ⟨pre, post, hl, -⟩ := exists_eq_placeholder (hone ▸ Nat.one_pos)
  have hsplit := splitAtPlaceholder_of_eq hone hl
  have ht : t = String.ofList pre ++ "\x7b\x7d" ++ String.ofList post := by
    rw [eq_placeholder_iff, String.toList_ofList, String.toList_ofList]
    exact hl
  -- any text around a placeholder of the format is the one the split finds
  have hsame : ∀ pre' post', t.toList = pre' ++ '{' :: '}' :: post' →
      pre = pre' ∧ post = post' := by
    intro pre' post' hl'
    have hsplit' := splitAtPlaceholder_of_eq hone hl'
    rw [hsplit] at hsplit'
    exact Prod.mk.inj (Option.some.inj hsplit')
  have hunique : ∀ pre' post', t = pre' ++ "\x7b\x7d" ++ post' →
      pre' = String.ofList pre ∧ post' = String.ofList post := by
    intro pre' post' ht'
    obtain ⟨hpre, hpost⟩ := hsame _ _ (eq_placeholder_iff.mp ht')
    exact ⟨by rw [hpre, String.ofList_toList], by rw [hpost, String.ofList_toList]⟩
  unfold ofTemplate
  rw [hsplit]
  simp only [hone, if_true]
  by_cases hempty : pre.isEmpty && post.isEmpty
  · -- the placeholder alone
    obtain ⟨hpre, hpost⟩ := Bool.and_eq_true_iff.mp hempty
    rw [List.isEmpty_iff] at hpre hpost
    subst hpre hpost
    refine ⟨_, if_pos hempty, ⟨_, _, ht⟩, fun pre' post' ht' x => ?_,
      ⟨fun _ => ht, fun _ => rfl⟩⟩
    obtain ⟨rfl, rfl⟩ := hunique pre' post' ht'
    simp [apply]
  · refine ⟨_, if_neg hempty, ⟨_, _, ht⟩, fun pre' post' ht' x => ?_,
      ⟨fun h => ?_, fun h => ?_⟩⟩
    · obtain ⟨rfl, rfl⟩ := hunique pre' post' ht'
      rfl
    · cases h
    · -- the placeholder alone has nothing around it
      obtain ⟨rfl, rfl⟩ := hsame [] [] (by rw [h]; rfl)
      exact absurd rfl hempty

end Decoration

end FeatureDocs.Render

namespace FeatureDocs.Settings

open FeatureDocs.Render

/-! ## The render check -/

theorem requireLink_some_eq_ok_iff {links : List (String × LinkSetting)} {n field : String} :
    requireLink links (some n) field = .ok () ↔ n ∈ links.map Prod.fst := by
  simp only [requireLink]
  split
  · next h =>
    simp only [true_iff]
    obtain ⟨p, hp, hn⟩ := List.lookup_isSome_iff.mp h
    exact List.mem_map.mpr ⟨p, hp, (beq_iff_eq.mp hn).symm⟩
  · next h =>
    simp only [reduceCtorEq, false_iff]
    intro hn
    obtain ⟨p, hp, rfl⟩ := List.mem_map.mp hn
    exact h (List.lookup_isSome_iff.mpr ⟨p, hp, beq_self_eq_true _⟩)

/-- **What the render check asks**: a one-character quote, a step format with one placeholder,
and the link rules it names for tags and steps. -/
theorem Config.validateRender_eq_ok_iff (s : Config) :
    s.validateRender = .ok () ↔
      s.render.quote.length = 1 ∧ placeholderCount s.render.backgroundStepFormat.toList = 1 ∧
      requireLink s.links s.render.tagUrl "render.tag_url" = .ok () ∧
      requireLink s.links s.render.stepUrl "render.step_url" = .ok () := by
  unfold Config.validateRender
  by_cases hq : s.render.quote.length = 1
  · by_cases hc : placeholderCount s.render.backgroundStepFormat.toList = 1
    · cases requireLink s.links s.render.tagUrl "render.tag_url" <;>
        simp [hq, hc, bind, Except.bind]
    · simp [hq, hc, throw, throwThe, MonadExceptOf.throw, bind, Except.bind]
  · simp [hq, throw, throwThe, MonadExceptOf.throw, bind, Except.bind]

theorem Config.validateRender_of_validate {s : Config} (h : s.validate = .ok ()) :
    s.validateRender = .ok () := by
  obtain ⟨_, -, h⟩ := Tree.bind_eq_ok.mp h
  obtain ⟨u, hu, -⟩ := Tree.bind_eq_ok.mp h
  exact hu

/-- On settings that pass the other render checks, the render check accepts exactly the step
formats that make a decoration. -/
theorem Config.validateRender_eq_ok_iff_ofTemplate {s : Config} (hq : s.render.quote.length = 1)
    (htag : requireLink s.links s.render.tagUrl "render.tag_url" = .ok ())
    (hstep : requireLink s.links s.render.stepUrl "render.step_url" = .ok ()) :
    s.validateRender = .ok () ↔
      ∃ d, Decoration.ofTemplate s.render.backgroundStepFormat = .ok d := by
  rw [Config.validateRender_eq_ok_iff]
  constructor
  · rintro ⟨-, hc, -, -⟩
    obtain ⟨d, hd, -⟩ := Decoration.ofTemplate_of_placeholderCount_eq_one hc
    exact ⟨d, hd⟩
  · rintro ⟨d, hd⟩
    -- a format that is not refused has one placeholder
    refine ⟨hq, ?_, htag, hstep⟩
    by_contra hne
    rw [Decoration.ofTemplate_eq_error_iff.mpr ⟨hne, rfl⟩] at hd
    cases hd

end FeatureDocs.Settings

namespace FeatureDocs.Command

open FeatureDocs.Render FeatureDocs.Settings FeatureDocs.Data

/-! ## The registry and the plan -/

theorem LinkRegistry.get_of_mem {reg : LinkRegistry} {n : String} (h : n ∈ reg.names) :
    ∃ rule, reg.get n = .ok rule := by
  obtain ⟨p, hp, rfl⟩ := List.mem_map.mp h
  obtain ⟨rule, hrule⟩ := Option.isSome_iff_exists.mp
    (List.lookup_isSome_iff.mpr ⟨p, hp, beq_self_eq_true _⟩)
  exact ⟨rule, by rw [LinkRegistry.get, hrule]⟩

theorem LinkRegistry.names_register (reg : LinkRegistry) (name : String) (rule : LinkRule) :
    (reg.register name rule).names = (upsertBy compareText name rule (fun _ => rule) reg.rules).map
      Prod.fst := rfl

/-- **Registering every rule succeeds when each rule can be made**, and the registry then holds
every name the rules have, besides those it held. -/
theorem foldlM_register {links : List (String × LinkSetting)}
    (h : ∀ l ∈ links, ∃ rule, LinkRule.make l.1 l.2.pattern l.2.url = .ok rule)
    (reg₀ : LinkRegistry) :
    ∃ reg, links.foldlM (fun reg (name, l) =>
        (LinkRule.make name l.pattern l.url).map (reg.register name)) reg₀ = .ok reg ∧
      (∀ n ∈ reg₀.names, n ∈ reg.names) ∧
      ∀ n ∈ links.map Prod.fst, n ∈ reg.names := by
  induction links generalizing reg₀ with
  | nil => exact ⟨reg₀, rfl, fun _ hn => hn, fun _ hn => absurd hn List.not_mem_nil⟩
  | cons l links ih =>
    obtain ⟨name, setting⟩ := l
    obtain ⟨rule, hrule⟩ := h _ List.mem_cons_self
    obtain ⟨reg, hreg, hkeep, hnames⟩ :=
      ih (fun l hl => h l (List.mem_cons_of_mem _ hl)) (reg₀.register name rule)
    refine ⟨reg, ?_, fun n hn => hkeep n ?_, fun n hn => ?_⟩
    · rw [List.foldlM_cons]
      simp only [hrule, Except.map]
      exact hreg
    · rw [LinkRegistry.names_register]
      exact mem_keys_upsertBy_of_mem _ _ _ hn
    · rcases List.mem_cons.mp hn with rfl | hn
      · apply hkeep
        rw [LinkRegistry.names_register]
        exact self_mem_keys_upsertBy _ _ _ _
      · exact hnames n hn

theorem linkRegistry_names {links : List (String × LinkSetting)}
    (h : ∀ l ∈ links, ∃ rule, LinkRule.make l.1 l.2.pattern l.2.url = .ok rule) :
    ∃ reg, linkRegistry links = .ok reg ∧
      ∀ n ∈ links.map Prod.fst, ∃ rule, reg.get n = .ok rule := by
  obtain ⟨reg, hreg, -, hnames⟩ := foldlM_register h {}
  exact ⟨reg, hreg, fun n hn => LinkRegistry.get_of_mem (hnames n hn)⟩

theorem LinkRegistry.get_of_requireLink {links : List (String × LinkSetting)} {u : Option String}
    {field : String} (hu : requireLink links u field = .ok ()) {reg : LinkRegistry}
    (hreg : ∀ n ∈ links.map Prod.fst, ∃ rule, reg.get n = .ok rule) {n : String}
    (hn : u = some n) : ∃ rule, reg.get n = .ok rule := by
  subst hn
  exact hreg n (requireLink_some_eq_ok_iff.mp hu)

/-- Such a rule is chosen without error. -/
theorem chosenRule_ne_error {links : List (String × LinkSetting)} {u : Option String}
    {field : String} (hu : requireLink links u field = .ok ()) {reg : LinkRegistry}
    (hreg : ∀ n ∈ links.map Prod.fst, ∃ rule, reg.get n = .ok rule) (e : LinkError) :
    chosenRule reg u ≠ .error e := by
  intro hfail
  cases u with
  | none => cases hfail
  | some n =>
    obtain ⟨rule, hrule⟩ := LinkRegistry.get_of_requireLink hu hreg rfl
    simp [chosenRule, hrule] at hfail

theorem bind_mapError_eq_error {ε ε' α β : Type} {x : Except ε α} {f : ε → ε'}
    {g : α → Except ε' β} {e : ε'} (h : x.mapError f >>= g = .error e) :
    (∃ e₀, x = .error e₀ ∧ e = f e₀) ∨ ∃ a, x = .ok a ∧ g a = .error e := by
  cases x with
  | error e₀ => exact .inl ⟨e₀, rfl, (Except.error.inj h).symm⟩
  | ok a => exact .inr ⟨a, rfl, h⟩

theorem bind_mapError_eq_ok {ε ε' α β : Type} {x : Except ε α} {f : ε → ε'}
    {g : α → Except ε' β} {b : β} (h : x.mapError f >>= g = .ok b) :
    ∃ a, x = .ok a ∧ g a = .ok b := by
  cases x with
  | error e₀ => cases h
  | ok a => exact ⟨a, rfl, h⟩

section Plan

variable {v : Store.Volume} {s : Config} {source output : Store.Path} {dryRun : Bool}

/-- **How a plan fails**: at the scan, the parser or the heading style, or at one of the steps
that read the link rules and the decoration, with that step's error. -/
theorem plan_eq_error {e : RunError} (h : plan v s source output dryRun = .error e) :
    (∃ e', e = .scan e') ∨ (∃ e', e = .parse e') ∨ (∃ n, e = .unknownStyle n) ∨
    (∃ e', linkRegistry s.links = .error e' ∧ e = .link e') ∨
    (∃ e', Decoration.ofTemplate s.render.backgroundStepFormat = .error e' ∧
      e = .decoration e') ∨
    ∃ reg e', linkRegistry s.links = .ok reg ∧
      (chosenRule reg s.render.tagUrl = .error e' ∨
        chosenRule reg s.render.stepUrl = .error e') ∧
      e = .link e' := by
  unfold plan at h
  -- the steps in order: patterns, scan, parser, registry, decoration, tag rule, step rule
  rcases bind_mapError_eq_error h with ⟨_, -, rfl⟩ | ⟨_, -, h⟩
  · exact .inl ⟨_, rfl⟩
  rcases bind_mapError_eq_error h with ⟨_, -, rfl⟩ | ⟨_, -, h⟩
  · exact .inl ⟨_, rfl⟩
  rcases bind_mapError_eq_error h with ⟨_, -, rfl⟩ | ⟨_, -, h⟩
  · exact .inr (.inl ⟨_, rfl⟩)
  rcases bind_mapError_eq_error h with ⟨_, he, rfl⟩ | ⟨reg, hreg, h⟩
  · exact .inr (.inr (.inr (.inl ⟨_, he, rfl⟩)))
  rcases bind_mapError_eq_error h with ⟨_, he, rfl⟩ | ⟨_, -, h⟩
  · exact .inr (.inr (.inr (.inr (.inl ⟨_, he, rfl⟩))))
  rcases bind_mapError_eq_error h with ⟨_, he, rfl⟩ | ⟨_, -, h⟩
  · exact .inr (.inr (.inr (.inr (.inr ⟨reg, _, hreg, .inl he, rfl⟩))))
  rcases bind_mapError_eq_error h with ⟨_, he, rfl⟩ | ⟨_, -, h⟩
  · exact .inr (.inr (.inr (.inr (.inr ⟨reg, _, hreg, .inr he, rfl⟩))))
  -- the heading style, last
  split at h
  · cases h
  · split at h
    · cases h
    · cases h
      exact .inr (.inr (.inl ⟨_, rfl⟩))

/-- A plan writes background steps with the decoration of the step format, and quotes table cells
with the first character of the quote setting, or the default quote without one. -/
theorem plan_eq_ok {p : Plan} (h : plan v s source output dryRun = .ok p) :
    Decoration.ofTemplate s.render.backgroundStepFormat = .ok p.page.backgroundStep ∧
      p.page.quote = s.render.quote.toList.head?.getD Markup.tableQuote := by
  unfold plan at h
  obtain ⟨_, -, h⟩ := bind_mapError_eq_ok h
  obtain ⟨_, -, h⟩ := bind_mapError_eq_ok h
  obtain ⟨_, -, h⟩ := bind_mapError_eq_ok h
  obtain ⟨_, -, h⟩ := bind_mapError_eq_ok h
  obtain ⟨d, hd, h⟩ := bind_mapError_eq_ok h
  obtain ⟨_, -, h⟩ := bind_mapError_eq_ok h
  obtain ⟨_, -, h⟩ := bind_mapError_eq_ok h
  -- every heading style that passes builds the same page settings
  split at h
  · cases h
    exact ⟨hd, rfl⟩
  · split at h
    · cases h
      exact ⟨hd, rfl⟩
    · cases h

/-- A plan whose step format makes a decoration never stops at the decoration. -/
theorem plan_ne_decoration {d : Decoration}
    (hd : Decoration.ofTemplate s.render.backgroundStepFormat = .ok d) (e : DecorationError) :
    plan v s source output dryRun ≠ .error (.decoration e) := by
  intro he
  rcases plan_eq_error he with
    ⟨_, h⟩ | ⟨_, h⟩ | ⟨_, h⟩ | ⟨_, -, h⟩ | ⟨_, he', -⟩ | ⟨_, _, -, -, h⟩
  · cases h
  · cases h
  · cases h
  · cases h
  · rw [hd] at he'
    cases he'
  · cases h

/-- A plan whose registry is built and whose chosen rules are found never stops at its links. -/
theorem plan_ne_link {reg : LinkRegistry} (hreg : linkRegistry s.links = .ok reg)
    (htag : ∀ e, chosenRule reg s.render.tagUrl ≠ .error e)
    (hstep : ∀ e, chosenRule reg s.render.stepUrl ≠ .error e) (e : LinkError) :
    plan v s source output dryRun ≠ .error (.link e) := by
  intro he
  rcases plan_eq_error he with
    ⟨_, h⟩ | ⟨_, h⟩ | ⟨_, h⟩ | ⟨_, he', -⟩ | ⟨_, -, h⟩ |
    ⟨reg', _, hreg', hfail, -⟩
  · cases h
  · cases h
  · cases h
  · rw [hreg] at he'
    cases he'
  · cases h
  · rw [hreg] at hreg'
    cases hreg'
    exact hfail.elim (htag _) (hstep _)

end Plan

/-! ## Checked settings -/

/-- What checked settings guarantee of the renderer a plan wires from them, with the rules the
two placeholder checks share. -/
structure WiredRenderer (s : Config) (v : Store.Volume) (source output : Store.Path)
    (dryRun : Bool) : Prop where
  /-- The step format makes a decoration that fills its placeholder, and a plan uses it. -/
  decoration : ∃ d, Decoration.ofTemplate s.render.backgroundStepFormat = .ok d ∧
    d.Fills s.render.backgroundStepFormat ∧
    ∀ p, plan v s source output dryRun = .ok p → p.page.backgroundStep = d
  /-- The quote is one character, and a plan quotes with it. -/
  quote : ∃ c, s.render.quote.toList = [c] ∧
    ∀ p, plan v s source output dryRun = .ok p → p.page.quote = c
  no_decoration_error : ∀ e, plan v s source output dryRun ≠ .error (.decoration e)
  /-- Once every link rule can be made, the registry has the rules named for tags and steps, and
  a plan does not stop at its links. -/
  links : (∀ l ∈ s.links, ∃ rule, LinkRule.make l.1 l.2.pattern l.2.url = .ok rule) →
    ∃ reg, linkRegistry s.links = .ok reg ∧
      (∀ n, s.render.tagUrl = some n → ∃ rule, reg.get n = .ok rule) ∧
      (∀ n, s.render.stepUrl = some n → ∃ rule, reg.get n = .ok rule) ∧
      ∀ e, plan v s source output dryRun ≠ .error (.link e)
  /-- A format is refused exactly when `{}` does not start at exactly one place. -/
  template_error_iff : ∀ t e, Decoration.ofTemplate t = .error e ↔
    (t.toList.tails.countP fun u => ['{', '}'].isPrefixOf u) ≠ 1 ∧
      e = ⟨t, t.toList.tails.countP fun u => ['{', '}'].isPrefixOf u⟩
  /-- On settings that pass the other render checks, the render check refuses exactly the
  formats the decoration refuses. -/
  validateRender_iff : ∀ s' : Config, s'.render.quote.length = 1 →
    requireLink s'.links s'.render.tagUrl "render.tag_url" = .ok () →
    requireLink s'.links s'.render.stepUrl "render.step_url" = .ok () →
    (s'.validateRender = .ok () ↔ ∃ d, Decoration.ofTemplate s'.render.backgroundStepFormat = .ok d)

/-- **Checked settings wire a renderer that cannot fail.** For settings that pass the checks, the
step format makes a decoration, which writes a step in place of the format's one placeholder and
is plain exactly for the placeholder alone; the quote is one character, and a plan quotes with
it; once every link rule can be made, the registry has the rules named for tags and steps. So a
plan never stops at its decoration, and then not at its links either. Conversely, a format is
refused exactly when it does not have one placeholder, the error counting every place where `{}`
starts, and on settings that pass the other render checks that is exactly when the render check
refuses it. -/
theorem checked_settings_wiring {s : Config} (hs : s.validate = .ok ()) (v : Store.Volume)
    (source output : Store.Path) (dryRun : Bool) : WiredRenderer s v source output dryRun := by
  obtain ⟨hq, hc, htag, hstep⟩ :=
    (Config.validateRender_eq_ok_iff s).mp (Config.validateRender_of_validate hs)
  obtain ⟨d, hd, hfills⟩ := Decoration.ofTemplate_of_placeholderCount_eq_one hc
  obtain ⟨c, hc1⟩ := List.length_eq_one_iff.mp (String.length_toList ▸ hq)
  refine ⟨⟨d, hd, hfills, fun p hp => ?_⟩, ⟨c, hc1, fun p hp => ?_⟩,
    plan_ne_decoration hd, fun hmake => ?_, fun t e => ?_,
    fun s' hq' htag' hstep' => Config.validateRender_eq_ok_iff_ofTemplate hq' htag' hstep'⟩
  · exact Except.ok.inj ((plan_eq_ok hp).1.symm.trans hd)
  · rw [(plan_eq_ok hp).2, hc1]
    rfl
  · -- every rule can be made, so the registry has every rule the settings define
    obtain ⟨reg, hreg, hget⟩ := linkRegistry_names hmake
    exact ⟨reg, hreg, fun _ => LinkRegistry.get_of_requireLink htag hget,
      fun _ => LinkRegistry.get_of_requireLink hstep hget,
      plan_ne_link hreg (chosenRule_ne_error htag hget) (chosenRule_ne_error hstep hget)⟩
  · rw [← placeholderCount_eq_countP_tails]
    exact Decoration.ofTemplate_eq_error_iff

/-- Settings with a decorated step format and a link rule for tags pass the checks. -/
theorem checked_settings_wiring_jira :
    let s : Config :=
      { render := { backgroundStepFormat := "*\x7b\x7d* (background)", tagUrl := some "jira" }
        links := [("jira", ⟨"^(PROJ-\\d+)$", "https://jira.example.com/browse/$\x7b1\x7d"⟩)] }
    let v : Store.Volume := {}
    let source : Store.Path := ⟨"/specs"⟩
    let output : Store.Path := ⟨"/out"⟩
    s.validate = .ok () ∧ WiredRenderer s v source output false := by
  intro s v source output
  have hs : s.validate = .ok () := by
    simp only [s]
    rfl
  exact ⟨hs, checked_settings_wiring hs v source output false⟩

end FeatureDocs.Command
