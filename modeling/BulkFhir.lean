import BulkFhir.Basic
import BulkFhir.ResourceType
import BulkFhir.Http
import BulkFhir.Client
import BulkFhir.JobStatus
import BulkFhir.Session
import BulkFhir.Contract
import BulkFhir.Monitor
import BulkFhir.Resource
import BulkFhir.Pipeline
import BulkFhir.IoHelpers
import BulkFhir.TestHelpers
