namespace WireContract
namespace Sample

def lines (texts : List String) : String := String.join (texts.map (· ++ "\n"))

def project (name : String) : String := lines
  [ "# API Guard Project Configuration",
    "name: " ++ name,
    "version: \"0.1.0\"",
    "",
    "# Interface definition document and compiled output",
    "document: swagger.yaml",
    "output: .apiguard/compiled.json",
    "",
    "auth:",
    "  token_header: x-auth-token",
    "",
    "# Compile only matching operations (\"*\" suffix matches a URL prefix)",
    "# filter:",
    "#   interface: /api/pets/*",
    "#   method: get" ]

def document : String := lines
  [ "basePath: /api",
    "paths:",
    "  /pets/\x7bpetId\x7d:",
    "    get:",
    "      operationId: getPet",
    "      tags: [pet]",
    "      parameters:",
    "        - \x7b name: petId, in: path, type: string, required: true, pattern: \"^[0-9]+$\" \x7d",
    "        - \x7b name: x-auth-token, in: header, type: string, required: true \x7d",
    "      responses:",
    "        200:",
    "          description: The pet",
    "          schema:",
    "            $ref: \"#/definitions/Pet\"",
    "  /pets:",
    "    post:",
    "      operationId: addPet",
    "      tags: [pet]",
    "      parameters:",
    "        - name: pet",
    "          in: body",
    "          required: true",
    "          schema:",
    "            $ref: \"#/definitions/Pet\"",
    "      responses:",
    "        201:",
    "          description: Created",
    "definitions:",
    "  Pet:",
    "    type: object",
    "    required: [name]",
    "    properties:",
    "      name: \x7b type: string, minLength: 1, maxLength: 32 \x7d",
    "      kind:",
    "        $ref: \"#/definitions/Kind\"",
    "      tags:",
    "        type: array",
    "        maxItems: 5",
    "        items: \x7b type: string, maxLength: 16 \x7d",
    "  Kind:",
    "    type: string",
    "    enum: [cat, dog, bird]" ]

def getRequest : String := lines
  [ "\x7b",
    "  \"params\": \x7b \"petId\": \"42\" \x7d,",
    "  \"headers\": \x7b",
    "    \"x-auth-token\": \"eyJ0b2tlbiI6eyJ1c2VyIjoiZGVtbyIsImV4cGlyZXNfYXQiOiIyOTk5LTEyLTMxVDIzOjU5OjU5WiJ9fQ==\"",
    "  \x7d",
    "\x7d" ]

def addRequest : String := lines
  [ "\x7b",
    "  \"body\": \x7b \"name\": \"Rex\", \"kind\": \"dog\", \"tags\": [\"good\", \"loud\"] \x7d",
    "\x7d" ]

def ignored : String := lines
  [ "# API Guard compiled output",
    ".apiguard/",
    "",
    "# IDE",
    ".idea/",
    ".vscode/",
    "*.swp" ]

end Sample
end WireContract
