import Mathlib.Tactic.Common
import Weblog.Proofs.Blog.Codecs
import Weblog.Proofs.Json.Numbers
import Weblog.Proofs.Json.Shapes
/-!
# The schema of data files

* `Post.shape`, `Comment.shape`, `Category.shape`, `BlogData.shape`: the objects that are read as
  posts, comments, categories and the data of a blog, and the values of the names they leave out.
* **`data_follows_schema`**: exactly these objects are read, and they are written in normal form.
-/

namespace Weblog

open Json Number

/-! ## The schema -/

def Post.shape : Shape := .object [
  .required "id" .text,
  .required "titulo" .text,
  .orElse "contenido" .text (.string ""),
  .required "autor" .text,
  .orElse "etiquetas" (.list .text) (.array []),
  .orElse "categoriaId" (.orNull .text) .null,
  .orElse "estado" .text (.string "borrador"),
  .required "fechaCreacion" .text,
  .orElse "fechaActualizacion" (.orNull .text) .null,
  .orElse "visitas" .count (.ofNat 0),
  .orElse "likes" (.list .text) (.array [])]

def Comment.shape : Shape := .object [
  .required "id" .text,
  .required "postId" .text,
  .required "autor" .text,
  .orElse "email" (.orNull .text) .null,
  .required "contenido" .text,
  .orElse "estado" .text (.string "pendiente"),
  .required "fechaCreacion" .text,
  .orElse "likes" (.list .text) (.array [])]

def Category.shape : Shape := .object [
  .required "id" .text,
  .required "nombre" .text,
  .orElse "descripcion" .text (.string ""),
  .required "fechaCreacion" .text]

def BlogData.shape : Shape := .object [
  .orElse "posts" (.list Post.shape) (.array []),
  .orElse "comments" (.list Comment.shape) (.array []),
  .orElse "categories" (.list Category.shape) (.array [])]

/-! ## Records without records -/

theorem Post.plain_shape (members : List (String × Json)) : Post.shape.Plain (.object members) :=
  Shape.plain_object (by simp [Rule.required, Rule.orElse, Shape.isFlat_text.orNull,
    Shape.isFlat_text.list]) members

theorem Comment.plain_shape (members : List (String × Json)) :
    Comment.shape.Plain (.object members) :=
  Shape.plain_object (by simp [Rule.required, Rule.orElse, Shape.isFlat_text.orNull,
    Shape.isFlat_text.list]) members

theorem Category.plain_shape (members : List (String × Json)) :
    Category.shape.Plain (.object members) :=
  Shape.plain_object (by simp [Rule.required, Rule.orElse]) members

/-! ## Reading by the schema -/

section Fits

open Codec Field.Fits

theorem Post.fits_shape : Post.codec.Fits Post.shape :=
  fits_record (fun _ => rfl) (by decide) <|
    .cons (required fits_text) <|
    .cons (required fits_text) <|
    .cons (orElse fits_text rfl) <|
    .cons (required fits_text) <|
    .cons (orElse (fits_list fits_text) rfl) <|
    .cons (orElse (fits_optional fits_text) rfl) <|
    .cons (orElse fits_text rfl) <|
    .cons (required fits_text) <|
    .cons (orElse (fits_optional fits_text) rfl) <|
    .cons (orElse fits_count rfl) <|
    .cons (orElse (fits_list fits_text) rfl) .nil

theorem Comment.fits_shape : Comment.codec.Fits Comment.shape :=
  fits_record (fun _ => rfl) (by decide) <|
    .cons (required fits_text) <|
    .cons (required fits_text) <|
    .cons (required fits_text) <|
    .cons (orElse (fits_optional fits_text) rfl) <|
    .cons (required fits_text) <|
    .cons (orElse fits_text rfl) <|
    .cons (required fits_text) <|
    .cons (orElse (fits_list fits_text) rfl) .nil

theorem Category.fits_shape : Category.codec.Fits Category.shape :=
  fits_record (fun _ => rfl) (by decide) <|
    .cons (required fits_text) <|
    .cons (required fits_text) <|
    .cons (orElse fits_text rfl) <|
    .cons (required fits_text) .nil

theorem BlogData.fits_shape : BlogData.codec.Fits BlogData.shape :=
  fits_record (fun _ => rfl) (by decide) <|
    .cons (orElse (fits_list Post.fits_shape) rfl) <|
    .cons (orElse (fits_list Comment.fits_shape) rfl) <|
    .cons (orElse (fits_list Category.fits_shape) rfl) .nil

end Fits

/-- **Objects are read by the schema.** An object of a text is read as a post, a comment, a category
or the data of a blog if and only if the schema allows it, and it is written with all names of the
schema. The posts, comments and categories in it are objects as well. The views of a post are read
from a number that is spelled with digits only. -/
theorem data_follows_schema {text : String} {members : List (String × Json)}
    (h : Json.ofText text = some (.object members)) :
    Post.codec.Follows Post.shape (.object members) ∧
      Comment.codec.Follows Comment.shape (.object members) ∧
      Category.codec.Follows Category.shape (.object members) ∧
      (BlogData.shape.Plain (.object members) →
        BlogData.codec.Follows BlogData.shape (.object members)) ∧
      ∀ (s rest : List Char) (n : Numeral) (k : Nat),
        scanNumeral s = (.number (some n), some rest) →
        (n = .int k ↔ ∃ digits, s = digits ++ rest ∧ IsNatural 10 digits k ∧ k < UInt64.size) := by
  have hdistinct := distinct_of_ofText h
  refine ⟨?_, ?_, ?_, fun hplain => ?_, fun _ _ _ _ => scanNumeral_natural_iff⟩
  · exact Post.fits_shape.follows Post.lawful_codec hdistinct (Post.plain_shape _)
  · exact Comment.fits_shape.follows Comment.lawful_codec hdistinct (Comment.plain_shape _)
  · exact Category.fits_shape.follows Category.lawful_codec hdistinct (Category.plain_shape _)
  · exact BlogData.fits_shape.follows BlogData.lawful_codec hdistinct hplain

/-- A post without views, tags, likes and state, and with no category. -/
def Post.brief : List (String × Json) :=
  [("autor", .string "ana"), ("categoriaId", .null), ("fechaCreacion", .string "2024-01-01"),
    ("id", .string "p"), ("titulo", .string "Viajes")]

/-- Data with that post, with one category, which has no description, and with a name that no data
has. -/
def BlogData.brief : List (String × Json) :=
  [("categories", .array [.object [("fechaCreacion", .string "2024-01-01"), ("id", .string "c"),
    ("nombre", .string "Viajes")]]), ("posts", .array [.object Post.brief]), ("version", .ofNat 3)]

theorem data_follows_schema_brief :
    Json.ofText ((Json.object Post.brief).render ++ "\n") = some (.object Post.brief) ∧
      Post.codec.Follows Post.shape (.object Post.brief) ∧
      (∃ p, Post.codec.ofJson (.object Post.brief) = .ok p ∧ p.views = 0 ∧ p.state = "borrador") ∧
      Json.ofText ((Json.object BlogData.brief).render ++ "\n") = some (.object BlogData.brief) ∧
      BlogData.shape.Plain (.object BlogData.brief) ∧
      BlogData.codec.Follows BlogData.shape (.object BlogData.brief) ∧
      scanNumeral ['3', '\x7d'] = (.number (some (.int (3 : Nat))), some ['\x7d']) ∧
      ∃ digits, ['3', '\x7d'] = digits ++ ['\x7d'] ∧ IsNatural 10 digits 3 ∧ 3 < UInt64.size := by
  have hpost : ∀ {depth}, (Json.object Post.brief).Ordered (depth + 1) := by
    refine .object (by decide) ?_
    simp [Post.brief, Ordered.string, Ordered.null]
  have hpostIntegral : (Json.object Post.brief).Integral := by
    refine .object ?_
    simp [Post.brief, Integral.string, Integral.null]
  have hordered : (Json.object BlogData.brief).Ordered depthLimit := by
    refine .object (by decide) ?_
    simp only [BlogData.brief, List.forall_mem_cons]
    refine ⟨.array ?_, .array ?_, .number _, nofun⟩
    · simp only [List.forall_mem_cons]
      refine ⟨.object (by decide) ?_, nofun⟩
      simp [Ordered.string]
    · simp only [List.forall_mem_cons]
      exact ⟨hpost, nofun⟩
  have hintegral : (Json.object BlogData.brief).Integral := by
    refine .object ?_
    simp only [BlogData.brief, List.forall_mem_cons]
    refine ⟨.array ?_, .array ?_, .int (by unfold IsExact; decide), nofun⟩
    · simp only [List.forall_mem_cons]
      refine ⟨.object ?_, nofun⟩
      simp [Integral.string]
    · simp only [List.forall_mem_cons]
      exact ⟨hpostIntegral, nofun⟩
  have htext := ofText_render_line hintegral hordered
  have hplain : BlogData.shape.Plain (.object BlogData.brief) := by
    refine ⟨⟨_, rfl⟩, ?_⟩
    simp only [List.forall_mem_cons]
    refine ⟨?_, trivial, ?_, nofun⟩
    · rintro _ ⟨⟩
      simpa using Post.plain_shape _
    · rintro _ ⟨⟩
      simpa using Category.plain_shape _
  have hnumeral : scanNumeral ['3', '\x7d'] = (.number (some (.int (3 : Nat))), some ['\x7d']) := by
    rfl
  have hpostText := ofText_render_line hpostIntegral hpost
  obtain ⟨-, -, -, hdata, hnumbers⟩ := data_follows_schema htext
  exact ⟨hpostText, (data_follows_schema hpostText).1, ⟨_, rfl, rfl, rfl⟩, htext, hplain,
    hdata hplain, hnumeral, (hnumbers _ _ _ 3 hnumeral).mp rfl⟩

end Weblog
