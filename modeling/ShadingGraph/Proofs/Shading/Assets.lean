import ShadingGraph.Proofs.Files.Path
import ShadingGraph.Shading.Asset

/-!
# References to files that were found

The path of a file that was found is given to the renderer as it is, or behind the name of the image
plugin, as its extension says. The name of the plugin leaves the extension as it is, and what stands
behind the path of a texture of a light is never the extension of native textures. So no path that
is passed on reads like another one behind the name of the plugin, even if it begins with that name.

Which files are images is any check that goes by the extension.

## Main definitions

- `ToldByExtension` — what is relied on of the check for images
- `AssetPath.IsLightTexture` — the parameter that holds the texture of a light
- `AssetPath.PassesOn` — the paths that are given to the renderer as they are

## Main results

- `AssetPath.passesOn_of_wrapped` — a path that is passed on is none that has been wrapped
- `AssetPath.reference_eq_reference_iff` — equal references are those of the same file
-/

namespace ShadingGraph

/-- A function that passes some arguments on and wraps the other ones keeps all of them apart, if no
wrapped argument is one of those that are passed on. -/
theorem injective_of_wraps {α : Type} {f wrap : α → α} {P : α → Prop}
    (hpass : ∀ x, P x → f x = x) (hwrap : ∀ x, ¬ P x → f x = wrap x)
    (hinjective : Function.Injective wrap) (hkeep : ∀ x, P (wrap x) → P x) :
    Function.Injective f := by
  intro x y h
  by_cases hx : P x
  · by_cases hy : P y
    · rwa [hpass x hx, hpass y hy] at h
    · rw [hpass x hx, hwrap y hy] at h
      exact absurd (hkeep y (h ▸ hx)) hy
  · by_cases hy : P y
    · rw [hwrap x hx, hpass y hy] at h
      exact absurd (hkeep x (h ▸ hy)) hx
    · rw [hwrap x hx, hwrap y hy] at h
      exact hinjective h

/-! ## Images -/

/-- A check for images goes by the extension of a path, whose letter case does not count, and takes
no path without an extension. -/
structure ToldByExtension (isImage : String → Bool) : Prop where
  congr : ∀ path path' extension extension', Path.extension? path = some extension →
    Path.extension? path' = some extension' → extension.toLower = extension'.toLower →
    isImage path = isImage path'
  plain : ∀ path, Path.extension? path = none → isImage path = false

theorem ToldByExtension.exists_extension {isImage : String → Bool} {path : String}
    (hisImage : ToldByExtension isImage) (h : isImage path = true) :
    ∃ extension, Path.extension? path = some extension := by
  refine Option.ne_none_iff_exists'.1 fun hnone => ?_
  rw [hisImage.plain path hnone] at h
  cases h

theorem toldByExtension_imagesByExtension (extensions : List String) :
    ToldByExtension (imagesByExtension extensions) where
  congr path path' extension extension' h h' hsame := by
    unfold imagesByExtension
    rw [h, h']
    exact congrArg extensions.contains hsame
  plain path h := by
    unfold imagesByExtension
    rw [h]

/-! ## The name of the plugin -/

theorem imagePluginReference_injective : Function.Injective imagePluginReference :=
  fun _ _ h => (String.append_right_inj _).1 h

/-- The name of the plugin holds no slash, so the file keeps its extension behind it. -/
theorem extension?_imagePluginReference {path extension : String}
    (h : Path.extension? path = some extension) :
    Path.extension? (imagePluginReference path) = some extension :=
  Path.extension?_append (by decide) h

namespace AssetPath

/-! ## Paths that are passed on -/

/-- The file is the texture of a light. -/
def IsLightTexture (parameter : String) (kind : ShadingKind) : Prop :=
  kind = .light ∧ parameter = lightTextureParameter

instance (parameter : String) (kind : ShadingKind) : Decidable (IsLightTexture parameter kind) :=
  inferInstanceAs (Decidable (kind = .light ∧ parameter = lightTextureParameter))

/-- A path is given to the renderer as it is: it names a native texture, or else no image and no
texture of a light. -/
def PassesOn (isImage : String → Bool) (parameter : String) (kind : ShadingKind) (path : String) :
    Prop :=
  Path.extension? path = some nativeTextureExtension ∨
    ¬ IsLightTexture parameter kind ∧ isImage path = false

/-- A path behind the name of the plugin, and for the texture of a light the wish behind it that it
be read unflipped. -/
def wrapped (parameter : String) (kind : ShadingKind) (path : String) : String :=
  if IsLightTexture parameter kind then imagePluginReference path ++ "&flipped=false"
  else imagePluginReference path

variable {isImage : String → Bool} {parameter path path' : String} {kind : ShadingKind}
  {a a' : AssetPath}

theorem resolvedReference_of_passesOn (h : PassesOn isImage parameter kind path) :
    resolvedReference isImage parameter kind path = path := by
  unfold resolvedReference
  split
  case isTrue => rfl
  case isFalse hnative =>
    obtain ⟨hlight, himage⟩ := h.resolve_left hnative
    rw [himage, if_neg Bool.false_ne_true]
    exact if_neg hlight

theorem resolvedReference_of_not_passesOn (h : ¬ PassesOn isImage parameter kind path) :
    resolvedReference isImage parameter kind path = wrapped parameter kind path := by
  obtain ⟨hnative, hother⟩ := not_or.1 h
  unfold resolvedReference wrapped
  rw [if_neg hnative]
  by_cases hlight : IsLightTexture parameter kind
  · rw [if_pos hlight]
    exact if_pos hlight
  · have himage : isImage path = true := by
      rw [not_and, Bool.not_eq_false] at hother
      exact hother hlight
    rw [if_neg hlight, himage, if_pos rfl]
    exact if_neg hlight

theorem wrapped_injective (parameter : String) (kind : ShadingKind) :
    Function.Injective (wrapped parameter kind) := by
  intro path path' h
  unfold wrapped at h
  split at h
  · exact imagePluginReference_injective ((String.append_left_inj _).1 h)
  · exact imagePluginReference_injective h

/-- A wrapped path is passed on only if the path inside is. -/
theorem passesOn_of_wrapped (hisImage : ToldByExtension isImage)
    (h : PassesOn isImage parameter kind (wrapped parameter kind path)) :
    PassesOn isImage parameter kind path := by
  unfold wrapped at h
  by_cases hlight : IsLightTexture parameter kind
  · rw [if_pos hlight] at h
    rcases h with hnative | ⟨hnot, -⟩
    · -- The text behind the path would have to end like the extension.
      have hsuffix := Path.extension?_append_plain (by decide) (by decide) (by decide) hnative
      exact absurd hsuffix (by decide)
    · exact absurd hlight hnot
  · rw [if_neg hlight] at h
    by_cases himage : isImage path = true
    · obtain ⟨extension, hextension⟩ := hisImage.exists_extension himage
      have hbehind := extension?_imagePluginReference hextension
      have hsame := hisImage.congr _ _ _ _ hbehind hextension rfl
      unfold PassesOn at h ⊢
      rwa [hbehind, hsame, ← hextension] at h
    · exact .inr ⟨hlight, Bool.eq_false_iff.2 himage⟩

theorem resolvedReference_injective (hisImage : ToldByExtension isImage) (parameter : String)
    (kind : ShadingKind) : Function.Injective (resolvedReference isImage parameter kind) :=
  injective_of_wraps (fun _ => resolvedReference_of_passesOn)
    (fun _ => resolvedReference_of_not_passesOn) (wrapped_injective parameter kind)
    fun _ => passesOn_of_wrapped hisImage

theorem reference_of_resolvedPath (h : a.resolvedPath = some path) :
    a.reference isImage parameter kind = resolvedReference isImage parameter kind path := by
  rw [reference, h]

/-- Under one parameter of nodes of one kind, two files that were found have the same reference only
if they are at the same path, whichever check tells images by their extensions. -/
theorem reference_eq_reference_iff (hisImage : ToldByExtension isImage) (parameter : String)
    (kind : ShadingKind) (h : a.resolvedPath = some path) (h' : a'.resolvedPath = some path') :
    a.reference isImage parameter kind = a'.reference isImage parameter kind ↔ path = path' := by
  rw [reference_of_resolvedPath h, reference_of_resolvedPath h']
  exact (resolvedReference_injective hisImage parameter kind).eq_iff

/-- An image, and a file whose path is the reference to that image. -/
theorem reference_ne_reference_of_sampleImages :
    let isImage := imagesByExtension ["png", "jpg", "jpeg", "exr"]
    let image : AssetPath := ⟨"wood.png", some "/tex/.wood/wood.PNG/."⟩
    let alike : AssetPath :=
      ⟨"wood.png", some "rtxplugin:RtxHioImage.so?filename=/tex/.wood/wood.PNG/."⟩
    ToldByExtension isImage ∧
      image.resolvedPath = some "/tex/.wood/wood.PNG/." ∧
      image.reference isImage "filename" .pattern =
        "rtxplugin:RtxHioImage.so?filename=/tex/.wood/wood.PNG/." ∧
      alike.resolvedPath = some "rtxplugin:RtxHioImage.so?filename=/tex/.wood/wood.PNG/." ∧
      image.reference isImage "filename" .pattern ≠
        alike.reference isImage "filename" .pattern := by
  intro isImage image alike
  have hisImage : ToldByExtension isImage := toldByExtension_imagesByExtension _
  have himage : image.resolvedPath = some "/tex/.wood/wood.PNG/." := by decide
  have halike : alike.resolvedPath =
      some "rtxplugin:RtxHioImage.so?filename=/tex/.wood/wood.PNG/." := by decide
  refine ⟨hisImage, himage, by decide +kernel, halike, ?_⟩
  intro h
  exact absurd ((reference_eq_reference_iff hisImage "filename" .pattern himage halike).1 h)
    (by decide)

end AssetPath

end ShadingGraph
