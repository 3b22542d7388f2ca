/-
What is expected of a vocabulary when a project says nothing else: an identifier type, a reference, a
state and a type for every domain, and the common types of responses, times and pages.
-/

import Concord.Coverage

namespace Concord.Coverage

/-! ### For every domain -/

def identifierType : DomainExpectation :=
  { label := "ID Type"
    kind := .typeAlias
    templates := ["$\x7bdomain\x7dId"]
    suggestion := "type $name = string & \x7b readonly __brand: '$name' \x7d;" }

def referenceRecord : DomainExpectation :=
  { label := "Ref Interface"
    kind := .record
    templates := ["$\x7bdomain\x7dRef"]
    suggestion := "interface $name \x7b\n  id: $\x7bdomain\x7dId;\n  name?: string;\n\x7d" }

def stateEnumeration : DomainExpectation :=
  { label := "State/Status Enum"
    kind := .enumeration
    templates := ["$\x7bdomain\x7dState", "$\x7bdomain\x7dStatus"]
    suggestion :=
      "enum $name \x7b\n  DRAFT = 'draft',\n  ACTIVE = 'active',\n  ARCHIVED = 'archived'\n\x7d" }

def typeEnumeration : DomainExpectation :=
  { label := "Type Enum"
    kind := .enumeration
    templates := ["$\x7bdomain\x7dType"]
    suggestion := "enum $name \x7b\n  DEFAULT = 'default',\n  CUSTOM = 'custom'\n\x7d" }

/-! ### In common -/

/-- The suggestion of a text type that cannot be mistaken for another. -/
def brandSuggestion (name : String) : String :=
  "type " ++ name ++ " = string & \x7b readonly __brand: '" ++ name ++ "' \x7d;"

def responseTypes : List CommonExpectation :=
  [⟨"ApiResponse", .typeAlias,
      "type ApiResponse<T> = \x7b success: boolean; data?: T; error?: \x7b code: string; message: string; \x7d \x7d;"⟩,
    ⟨"PaginatedResponse", .typeAlias,
      "type PaginatedResponse<T> = \x7b items: T[]; total: number; page: number; limit: number; hasMore: boolean; \x7d;"⟩]

def timeTypes : List CommonExpectation :=
  [⟨"ISOTimestamp", .typeAlias, brandSuggestion "ISOTimestamp"⟩,
    ⟨"ISODate", .typeAlias, brandSuggestion "ISODate"⟩,
    ⟨"Timestamps", .record,
      "interface Timestamps \x7b\n  createdAt: ISOTimestamp;\n  updatedAt: ISOTimestamp;\n\x7d"⟩]

def pageTypes : List CommonExpectation :=
  [⟨"PaginationParams", .record,
    "interface PaginationParams \x7b\n  page?: number;\n  limit?: number;\n  sortBy?: string;\n  sortOrder?: 'asc' | 'desc';\n\x7d"⟩]

/-- What is expected by default. -/
def defaultExpectations : Expectations :=
  { domainItems := [identifierType, referenceRecord, stateEnumeration, typeEnumeration]
    commonItems := responseTypes ++ timeTypes ++ pageTypes }

end Concord.Coverage
