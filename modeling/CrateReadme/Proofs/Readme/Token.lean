import CrateReadme.Proofs.Readme.Bundled
import CrateReadme.Proofs.Text.Base64
import CrateReadme.Proofs.Text.Search
import CrateReadme.Readme.Render

/-!
# Tokens of readmes

The token of a trailer is found again if the marker does not occur before the trailer. The marker
starts and ends with a space, and that space is its only border, so an earlier occurrence could
reach into the trailer by no more than a space.

A token is looked for in the whole readme, not only in the trailer. No marker goes over the end of a
line, so what stands in front of the trailer of a readme made with the bundled template decides: a
marker in the documentation or in a badge hides the token that is embedded.
-/

namespace CrateReadme.Readme

/-! ## Trailers -/

theorem marker_hasOnlyBorder : Text.HasOnlyBorder marker.toList [' '] := by
  intro border hne hproper hstart hend
  have hlength := hstart.length_le
  have htake := List.prefix_iff_eq_take.mp hstart
  have hdrop := List.suffix_iff_eq_drop.mp hend
  have hall : ∀ count ≤ marker.toList.length,
      marker.toList.take count = marker.toList.drop (marker.toList.length - count) →
        marker.toList.take count = [] ∨ marker.toList.take count = [' '] ∨
          marker.toList.take count = marker.toList := by
    decide +kernel
  have hborder := hall border.length hlength (htake.symm.trans hdrop)
  rw [← htake] at hborder
  exact (hborder.resolve_left hne).resolve_right hproper

/-- Whether a token that stands in front of a text ends there. -/
def EndsToken (text : List Char) : Prop :=
  ∀ c ∈ text.head?, endsToken c

theorem takeWhile_append {token rest : List Char} (htoken : ∀ c ∈ token, endsToken c = false)
    (hrest : EndsToken rest) :
    (token ++ rest).takeWhile (fun c => !endsToken c) = token :=
  (Text.takeWhile_append_of_head? (fun c hmem => by simp [htoken c hmem])
    fun c hmem => by simp [hrest c hmem]).1

/-- A token behind the first marker is found. -/
theorem token?_of_first {readme token : String} {before rest : List Char}
    (hreadme : readme.toList = before ++ (marker.toList ++ (token.toList ++ rest)))
    (hbefore : ¬marker.toList <:+: before ++ [' '])
    (htoken : ∀ c ∈ token.toList, endsToken c = false) (hrest : EndsToken rest) :
    token? readme = some token := by
  rw [token?, hreadme, Text.breakOn?_of_border marker_hasOnlyBorder hbefore, Option.map_some]
  simp only
  rw [takeWhile_append htoken hrest, String.ofList_toList]

theorem isBlank_of_endsToken {c : Char} (hend : endsToken c) : Text.isBlank c := by
  rw [endsToken, Bool.or_eq_true, decide_eq_true_eq, decide_eq_true_eq] at hend
  rcases hend with rfl | rfl
  · decide
  · decide

theorem endsToken_of_mem_token {snapshot : Snapshot} {c : Char}
    (hmem : c ∈ snapshot.token.toList) : endsToken c = false := by
  rw [Snapshot.token, String.toList_ofList] at hmem
  have hblank := Text.Base64.isBlank_of_mem_encode hmem
  cases hend : endsToken c with
  | false => rfl
  | true =>
      rw [isBlank_of_endsToken hend] at hblank
      cases hblank

/-- A trailer starts with the marker and the token; a line break follows if there are links. -/
theorem exists_toList_trailer (snapshot : Snapshot) (links : List (String × String)) :
    ∃ rest, (trailer snapshot links).toList = marker.toList ++ (snapshot.token.toList ++ rest) ∧
      (links = [] → rest = []) ∧ (links ≠ [] → rest.head? = some '\n') := by
  cases links with
  | nil => exact ⟨[], by simp [trailer], fun _ => rfl, fun hne => absurd rfl hne⟩
  | cons link links =>
      refine ⟨'\n' :: ("\n".intercalate
        ((link :: links).map fun link => definition link.1 link.2)).toList, ?_, by simp, by simp⟩
      simp [trailer]

/-! ## The bundled template -/

/-- What stands in front of the trailer in a readme made with the bundled template. -/
def front (input : Input) (host : Option String) : String :=
  String.ofList (sheet input host (draft input Template.bundled).body "").front

theorem toList_front (input : Input) (host : Option String) :
    (front input host).toList =
      (sheet input host (draft input Template.bundled).body "").front :=
  String.toList_ofList

/-- The end of a line ends the search in the lines in front of it. -/
theorem token?_append_line (lines more : List Char) :
    token? (String.ofList (lines ++ '\n' :: more)) =
      (token? (String.ofList lines)).or (token? (String.ofList more)) := by
  have hmarker : marker.toList ≠ [] := by decide
  have hline : '\n' ∉ marker.toList := by decide
  simp only [token?, String.toList_ofList, Text.breakOn?_append_of_not_mem hmarker hline]
  cases Text.breakOn? marker.toList lines with
  | none => simp [Function.comp_def]
  | some parts =>
      obtain ⟨before, rest⟩ := parts
      have hrest : (rest ++ '\n' :: more).takeWhile (fun c => !endsToken c) =
          rest.takeWhile fun c => !endsToken c := by
        rw [List.takeWhile_append]
        split
        · next hall =>
          rw [List.takeWhile_cons_of_neg (by decide), List.append_nil]
          exact (List.takeWhile_prefix _).eq_of_length hall |>.symm
        · rfl
      simp [hrest]

theorem length_token_mod (snapshot : Snapshot) : snapshot.token.toList.length % 4 ≠ 1 := by
  rw [Snapshot.token, String.toList_ofList]
  exact Text.Base64.length_encode_mod _

/-- The token of a trailer is found on its first line. -/
theorem token?_trailer (snapshot : Snapshot) (links : List (String × String)) :
    token? (String.ofList ((trailer snapshot links).toList ++ ['\n'])) = some snapshot.token := by
  obtain ⟨rest, htrailer, hnone, hsome⟩ := exists_toList_trailer snapshot links
  have hends : EndsToken (rest ++ ['\n']) := by
    by_cases hlinks : links = []
    · rw [hnone hlinks]
      exact fun c hmem => Option.some.inj hmem ▸ rfl
    · intro c hmem
      rw [List.head?_append, hsome hlinks] at hmem
      exact Option.some.inj hmem ▸ rfl
  have hreadme : (String.ofList ((trailer snapshot links).toList ++ ['\n'])).toList =
      [] ++ (marker.toList ++ (snapshot.token.toList ++ (rest ++ ['\n']))) := by
    rw [String.toList_ofList, htrailer]
    simp
  exact token?_of_first hreadme (by decide) (fun _ => endsToken_of_mem_token) hends

theorem render_of_template {input : Input} {template : String} {host : Option String} {made : Draft}
    {text : List Char} (hhost : Host.ofRepository? input.repository = some host)
    (hmade : draft input template = made)
    (htext : Template.render template.toList (templateValues input host made.body
      (trailer made.trace.snapshot made.links)) = .ok text) :
    render input template =
      .ok ⟨String.ofList text, made.trace.snapshot, made.links, made.trace.diagnostics⟩ := by
  rw [render, hmade, hhost]
  simp only
  rw [htext]

/-- The link definitions do not matter for what stands in front of them. -/
theorem text_sheet (input : Input) (host : Option String) (readme : List Char) {links : String}
    (hlinks : links.toList ≠ []) :
    (sheet input host readme links).text =
      (sheet input host readme "").front ++ "\n\n".toList ++ links.toList ++ "\n".toList := by
  have hlinks' : (sheet input host readme links).links ≠ [] := hlinks
  rw [Template.Sheet.text, if_neg hlinks', ← List.append_assoc]
  rfl

/-- A readme made with the bundled template ends in the trailer. -/
theorem text_render_bundled {input : Input} {host : Option String}
    (hhost : Host.ofRepository? input.repository = some host) :
    ∃ rendering, render input Template.bundled = .ok rendering ∧
      rendering.text.toList = (front input host).toList ++
        "\n\n".toList ++ (trailer rendering.snapshot rendering.links).toList ++ "\n".toList := by
  generalize hmade : draft input Template.bundled = made
  have htrailer : (trailer made.trace.snapshot made.links).toList ≠ [] := by
    obtain ⟨rest, heq, -⟩ := exists_toList_trailer made.trace.snapshot made.links
    rw [heq]
    exact List.append_ne_nil_of_left_ne_nil (by decide) _
  refine ⟨_, render_of_template hhost hmade (render_bundled input host _ _ .usual), ?_⟩
  rw [String.toList_ofList, text_sheet input host _ htrailer, toList_front, hmade]

/-- In front of a trailer, only a marker matters. -/
theorem token?_append_trailer {readme : String} {before : List Char} {snapshot : Snapshot}
    {links : List (String × String)}
    (hreadme : readme.toList =
      before ++ "\n\n".toList ++ (trailer snapshot links).toList ++ "\n".toList) :
    token? readme = (token? (String.ofList before)).or (some snapshot.token) := by
  have hlines : readme = String.ofList
      (before ++ '\n' :: ([] ++ '\n' :: ((trailer snapshot links).toList ++ ['\n']))) := by
    rw [← String.toList_inj, hreadme, String.toList_ofList]
    simp
  rw [hlines, token?_append_line, token?_append_line, token?_trailer]
  rfl

/-- Making a readme with the bundled template succeeds if the repository's host is known or there is
none, and the token found in the readme is the embedded one unless a marker stands in front of the
trailer. -/
theorem render_bundled_token (input : Input) {host : Option String}
    (hhost : Host.ofRepository? input.repository = some host) :
    ∃ rendering, render input Template.bundled = .ok rendering ∧
      token? rendering.text = (token? (front input host)).or (some rendering.snapshot.token) := by
  obtain ⟨rendering, hrender, htext⟩ := text_render_bundled hhost
  refine ⟨rendering, hrender, ?_⟩
  rw [token?_append_trailer htext, String.ofList_toList]

theorem render_bundled_token_licensed :
    let input : Input :=
      { crate := "my-crate", version := default, artifact := .library, docs := "See `Vec`.",
        scope := .empty, dependencies := [], repository := some "https://github.com/me/my-crate",
        license := some "MIT", rustVersion := none }
    Host.ofRepository? input.repository = some (some "github.com") ∧
      ∃ rendering, render input Template.bundled = .ok rendering ∧
        token? rendering.text = some rendering.snapshot.token := by
  intro input
  have hhost : Host.ofRepository? input.repository = some (some "github.com") := by
    decide +kernel
  have hfront : token? (front input (some "github.com")) = none := by
    rw [token?, toList_front]
    decide +kernel
  obtain ⟨rendering, hrender, htoken⟩ := render_bundled_token input hhost
  rw [hfront, Option.none_or] at htoken
  exact ⟨hhost, rendering, hrender, htoken⟩

/-- A code block of the documentation hides the token. -/
theorem render_bundled_token_hidden :
    let input : Input :=
      { crate := "my-crate", version := default, artifact := .library,
        docs := "```text\n [__doc2readme_dependencies_info]: x\n```", scope := .empty,
        dependencies := [], repository := none, license := none, rustVersion := none }
    ∃ rendering, render input Template.bundled = .ok rendering ∧
      token? rendering.text = some "x" ∧ rendering.snapshot.token ≠ "x" := by
  intro input
  have hhost : Host.ofRepository? input.repository = some none := by
    decide +kernel
  have hfront : token? (front input none) = some "x" := by
    rw [token?, toList_front]
    decide +kernel
  obtain ⟨rendering, hrender, htext⟩ := text_render_bundled hhost
  refine ⟨rendering, hrender, ?_, fun htoken => ?_⟩
  · rw [token?_append_trailer htext, String.ofList_toList, hfront, Option.some_or]
  · have hlength := length_token_mod rendering.snapshot
    rw [htoken] at hlength
    exact hlength (by decide)

end CrateReadme.Readme
