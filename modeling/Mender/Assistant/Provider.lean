import Mender.Text.Blank

/-!
# Providers

The services that can answer a prompt (`Provider`). The first of them that has a key
is used; they are tried in a fixed order (`Provider.configured`).
-/

namespace Mender.Assistant

/-- A service that answers prompts. -/
structure Provider where
  name : String
  apiKey : String
  /-- The address below which its functions are found. -/
  baseUrl : String
  model : String
  deriving DecidableEq, Repr

/-- The keys for the services. -/
structure Keys where
  deepseek : Option String
  glm : Option String
  openai : Option String
  deriving DecidableEq, Repr

namespace Provider

/-- All services, with an empty key where there is none. -/
def candidates (k : Keys) : List Provider :=
  [⟨"deepseek", k.deepseek.getD "", "https://api.deepseek.com/v1", "deepseek-chat"⟩,
   ⟨"glm", k.glm.getD "", "https://open.bigmodel.cn/api/paas/v4", "glm-4-air"⟩,
   ⟨"openai", k.openai.getD "", "https://api.openai.com/v1", "gpt-4"⟩]

/-- The services with a key that is not blank, the preferred one first. -/
def configured (k : Keys) : List Provider :=
  (candidates k).filter fun p => !Text.allBlank p.apiKey.toList

/-- The service that is used. -/
def selected? (k : Keys) : Option Provider := (configured k).head?

end Provider

end Mender.Assistant
