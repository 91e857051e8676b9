import VectorDb.Rpc.Result
import VectorDb.Rpc.Pointer
import VectorDb.Rpc.Session
import VectorDb.Codec.Document
import VectorDb.Codec.Schema
import VectorDb.Codec.Collection
import VectorDb.Codec.Numbers
import VectorDb.Filter.Parse
import VectorDb.Filter.WellFormed
import VectorDb.Filter.Literal
import VectorDb.Filter.Wire
import VectorDb.Filter.Threads
import VectorDb.Filter.Program
import VectorDb.Filter.Recover
import VectorDb.Filter.Expressive
import VectorDb.Rpc.Deadline
import VectorDb.Codec.Rounds
import VectorDb.Codec.Indexes
import VectorDb.Codec.Recreation
import VectorDb.Codec.Requests
import VectorDb.Codec.Answers
